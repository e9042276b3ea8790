import LedgerRules.Proofs.Service.Pages

/-!
Where those errors of the service come from that nobody reports: an interruption and a date out of
all bounds are sent by the service, the transport refuses an address by itself, and what is too deep
is a reply or a value.
-/

namespace LedgerRules

open Effect

/-- The header of the last modification holds a number out of all bounds. -/
def Reply.Overflows (overflow : MailDate.Overflow) : Reply → Prop
  | .answer _ _ headers _ =>
      ∃ text, headerValue? headers "last-modified" = some text ∧
        MailDate.read text = .error overflow
  | _ => False

def Reply.IsTooDeep (platform : Platform) : Reply → Prop
  | .answer _ _ _ body => platform.exhausts (.json body) = true
  | _ => False

/-- What the error tells of has happened: in one of the replies, or between the client and them. -/
def ServiceError.HasCause (client : Client) (replies : List Reply) : ServiceError → Prop
  | .interrupted interruption => .interrupted interruption ∈ replies
  | .refused fault => ∃ method url, client.transport.refusal? method url = some fault
  | .dateOverflow overflow => ∃ reply ∈ replies, reply.Overflows overflow
  | .tooDeep =>
      (∃ reply ∈ replies, reply.IsTooDeep client.platform) ∨
        ∃ value, client.platform.exhausts (.value value) = true
  | _ => True

theorem overflows_of_watermark {status : Int} {reason : String}
    {headers : List (String × String)} {body : Bytes} {overflow : MailDate.Overflow}
    (failed : watermark? (headerValue? headers "last-modified") = .error overflow) :
    Reply.Overflows overflow (.answer status reason headers body) := by
  cases found : headerValue? headers "last-modified" with
  | none =>
      rw [found] at failed
      cases failed
  | some text =>
      rw [found] at failed
      simp only [watermark?] at failed
      split at failed
      · cases failed
      · cases read : MailDate.read text with
        | error fault =>
            rw [read] at failed
            cases failed
            exact ⟨text, found, read⟩
        | ok moment =>
            rw [read] at failed
            cases failed

namespace Client

variable {client : Client} {replies : List Reply}

/-- An exchange that takes its replies from the given ones. Its value is a good one, or its error
has a cause. -/
def Draws (client : Client) (replies : List Reply) {α : Type} (good : α → Prop)
    (effect : Exchange α) : Prop :=
  ∀ connection : Connection, connection.replies ⊆ replies →
    (outcome effect connection).2.replies ⊆ replies ∧
      match (outcome effect connection).1 with
      | .ok value => good value
      | .error error => error.HasCause client replies

theorem draws_result {α : Type} {good : α → Prop} {result : Except ServiceError α}
    (known : match result with
      | .ok value => good value
      | .error error => error.HasCause client replies) :
    Draws client replies good (liftM result) := by
  intro connection drawn
  exact ⟨drawn, known⟩

theorem draws_mapError {δ α : Type} {name : δ → ServiceError} {result : Except δ α}
    (known : ∀ fault, result = .error fault → (name fault).HasCause client replies) :
    Draws client replies (fun _ => True) (liftM (result.mapError name)) := by
  apply draws_result
  cases result with
  | error fault => exact known fault rfl
  | ok value => trivial

theorem draws_pure {α : Type} (value : α) :
    Draws client replies (fun _ => True) (pure value : Exchange α) :=
  fun _ drawn => ⟨drawn, trivial⟩

theorem draws_throw {α : Type} {good : α → Prop} {error : ServiceError}
    (known : error.HasCause client replies) :
    Draws client replies good (throw error : Exchange α) :=
  fun _ drawn => ⟨drawn, known⟩

theorem Draws.bind {α β : Type} {good : α → Prop} {better : β → Prop} {effect : Exchange α}
    {next : α → Exchange β} (first : Draws client replies good effect)
    (second : ∀ value, good value → Draws client replies better (next value)) :
    Draws client replies better (effect >>= next) := by
  intro connection drawn
  rw [outcome_bind]
  obtain ⟨after, known⟩ := first connection drawn
  generalize outcome effect connection = middle at after known
  obtain ⟨error | value, middle⟩ := middle
  · exact ⟨after, known⟩
  · exact second value known middle after

theorem draws_exchange (request : Request) :
    Draws client replies (fun reply => reply ∈ replies ∨ ∃ reason, reply = .unreachable reason)
      (liftM (exchange request)) := by
  rintro ⟨_ | ⟨reply, rest⟩, requests, log⟩ drawn
  · exact ⟨drawn, .inr ⟨_, rfl⟩⟩
  · obtain ⟨own, others⟩ := List.cons_subset.mp drawn
    exact ⟨others, .inl own⟩

theorem hasCause_of_payload {status : Int} {reason : String} {headers : List (String × String)}
    {body : Bytes} {error : ServiceError} (own : .answer status reason headers body ∈ replies)
    (refused : payload client.platform body = .error error) : error.HasCause client replies := by
  simp only [payload] at refused
  split at refused
  · cases refused
  · split at refused
    · rename_i deep
      cases refused
      exact .inl ⟨_, own, deep⟩
    · cases read : Json.read (Utf8.decodeLenient body) with
      | error fault =>
          rw [read] at refused
          cases refused
          trivial
      | ok value =>
          rw [read] at refused
          cases refused

/-- The headers are those of one of the replies. -/
def AreSent (replies : List Reply) (headers : List (String × String)) : Prop :=
  ∃ status reason body, .answer status reason headers body ∈ replies

theorem draws_interpret (resource : String) {reply : Reply}
    (drawn : reply ∈ replies ∨ ∃ reason, reply = .unreachable reason) :
    Draws client replies (fun read => AreSent replies read.2)
      (liftM (client.interpret resource reply)) := by
  apply draws_result
  cases reply with
  | unreachable reason => trivial
  | interrupted interruption => exact drawn.resolve_right nofun
  | answer status reason headers body =>
  have own := drawn.resolve_right nofun
  cases success : client.transport.isSuccess status with
  | false =>
      simp only [interpret, success, Bool.false_eq_true, if_false]
      trivial
  | true =>
      simp only [interpret, success, if_true]
      cases read : payload client.platform body with
      | error error => exact hasCause_of_payload own read
      | ok value => exact ⟨status, reason, body, own⟩

theorem hasCause_of_prepare {method : Method} {url : String} {body : Option Json}
    {error : ServiceError} (failed : client.prepare method url body = .error error) :
    error.HasCause client replies := by
  simp only [prepare] at failed
  split at failed
  · rename_i deep
    cases failed
    cases body with
    | none => cases deep
    | some value => exact .inr ⟨value, deep⟩
  · cases located : Url.target url with
    | error fault =>
        rw [located] at failed
        cases failed
        trivial
    | ok target =>
        rw [located] at failed
        simp only [Except.mapError, bind, Except.bind] at failed
        split at failed
        · rename_i fault refused
          cases failed
          exact ⟨_, _, refused⟩
        · cases failed

theorem draws_send (method : Method) (url resource : String) (body : Option Json) :
    Draws client replies (fun read => AreSent replies read.2)
      (client.send method url resource body) := by
  have prepared :
      Draws client replies (fun _ => True) (liftM (client.prepare method url body)) := by
    apply draws_result
    cases result : client.prepare method url body with
    | error error => exact hasCause_of_prepare result
    | ok request => trivial
  apply prepared.bind
  intro request _
  apply (draws_exchange request).bind
  intro reply drawn
  exact draws_interpret resource drawn

theorem draws_log (level : LogLevel) (text : String) :
    Draws client replies (fun _ => True) (liftM (log level text) : Exchange Unit) :=
  fun _ drawn => ⟨drawn, trivial⟩

theorem hasCause_unexpected (resource : String) (value : Json) :
    (client.unexpected resource value).HasCause client replies := by
  rw [unexpected]
  split
  · rename_i deep
    exact .inr ⟨value, deep⟩
  · trivial

theorem draws_readPage (resource : String) (number : Nat) (url : String) :
    Draws client replies (fun _ => True) (client.readPage resource number url) := by
  apply (draws_send .get url resource none).bind
  rintro ⟨value, headers⟩ ⟨status, reason, body, own⟩
  have next : Draws client replies (fun _ => True)
      (liftM ((client.nextUrl headers).mapError ServiceError.address)) :=
    draws_mapError fun _ _ => trivial
  have watermark : Draws client replies (fun _ => True)
      (liftM ((watermark? (headerValue? headers "last-modified")).mapError
        ServiceError.dateOverflow)) :=
    draws_mapError fun overflow dated => ⟨_, own, overflows_of_watermark dated⟩
  cases value with
  | array items =>
      apply next.bind
      intro next _
      apply (draws_log _ _).bind
      intro _ _
      exact watermark.bind fun _ _ => draws_pure _
  | _ => exact draws_throw (hasCause_unexpected resource _)

theorem draws_readPages (resource : String) (limit number : Nat) (url : String)
    {connection : Connection} (drawn : connection.replies ⊆ replies) :
    (client.readPages resource limit number url connection).2.replies ⊆ replies ∧
      ∀ error, (client.readPages resource limit number url connection).1.error = some error →
        error.HasCause client replies := by
  induction limit generalizing number url connection with
  | zero => exact ⟨drawn, nofun⟩
  | succ limit ih =>
      obtain ⟨after, known⟩ := draws_readPage resource number url connection drawn
      rw [readPages_succ]
      generalize outcome (client.readPage resource number url) connection = read at after known
      obtain ⟨error | page, middle⟩ := read
      · refine ⟨after, ?_⟩
        rintro other ⟨⟩
        exact known
      · cases found : page.nextUrl with
        | none =>
            simp only [found]
            exact ⟨after, nofun⟩
        | some next =>
            simp only [found]
            exact ih (number + 1) next after

theorem draws_pages (resource : String) (query : Json.Fields) (limit : Nat)
    {connection : Connection} (drawn : connection.replies ⊆ replies) :
    (client.pages resource query limit connection).2.replies ⊆ replies ∧
      ∀ error, (client.pages resource query limit connection).1.error = some error →
        error.HasCause client replies := by
  simp only [pages]
  cases Url.ofPath client.baseUrl resource (client.listParameters query) with
  | error fault =>
      refine ⟨drawn, ?_⟩
      rintro error ⟨⟩
      trivial
  | ok url => exact draws_readPages resource limit 1 url drawn

theorem draws_fetchAll (resource : String) (query : Json.Fields) :
    Draws client replies (fun _ => True) (client.fetchAll resource query) := by
  have read (limit : Nat) : Draws client replies
      (fun result => ∀ error, result.error = some error → error.HasCause client replies)
      (liftM (client.pages resource query limit)) :=
    fun _ drawn => draws_pages resource query limit drawn
  have asked : Draws client replies (fun _ => True) (get : Exchange Connection) :=
    fun _ drawn => ⟨drawn, trivial⟩
  apply asked.bind
  intro connection _
  apply (read _).bind
  intro result known
  cases failed : result.error with
  | some error => exact draws_throw (known error failed)
  | none => exact (draws_log _ _).bind fun _ _ => draws_pure _

theorem draws_replace (resource id : String) (record : Option Json) :
    Draws client replies (fun _ => True) (client.replace resource id record) := by
  have url : Draws client replies (fun _ => True)
      (liftM ((Url.ofPath client.baseUrl (resource ++ "/" ++ id) []).mapError
        ServiceError.address)) :=
    draws_mapError fun _ _ => trivial
  apply url.bind
  intro url _
  exact (draws_send .put url resource record).bind fun _ _ => draws_pure _

end Client

end LedgerRules
