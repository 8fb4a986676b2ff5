import Mathlib.Data.List.Basic
import Genesis.Lib.Handlers
import Genesis.Platform

/-!
# The correlation id of a request

`CorrelationMiddleware` takes the correlation id from a request header, keeps it in
a context variable while the application runs, and adds it to the response.
`current_correlation_id` reads the variable, and makes up an id when it is empty.

A header whose bytes are all outside ASCII is decoded to the empty text:
`oneIdentifier_iff` says that every other header list gives a request one id.
-/

namespace Genesis

open Py Session

/-! ## Bytes -/

abbrev Bytes : Type := List UInt8

/-- A bytes literal. -/
def asciiBytes (s : String) : Bytes := s.toList.map fun c => UInt8.ofNat c.toNat

/-- `key.lower()`. -/
def lowerByte (b : UInt8) : UInt8 := if 65 ≤ b ∧ b ≤ 90 then b + 32 else b

/-- `raw.decode("ascii", errors="ignore")`. -/
def decodeAscii (raw : Bytes) : String :=
  String.ofList ((raw.filter fun b => b < 128).map fun b => Char.ofNat b.toNat)

/-- `text.encode("ascii")`. -/
def encodeAscii (text : String) : Except PyException Bytes :=
  if text.toList.all fun c => c.toNat < 128 then .ok (asciiBytes text)
  else .error (.other "UnicodeEncodeError")

/-- A random UUID, by its `hex`. -/
structure Uuid where
  hex : String
  isHex : hex.length = 32 ∧
    ∀ c ∈ hex.toList, ('0' ≤ c ∧ c ≤ '9') ∨ ('a' ≤ c ∧ c ≤ 'f')

/-! ## The interface of a server -/

abbrev Header : Type := Bytes × Bytes

/-- The part of an ASGI scope the middleware reads. -/
structure Scope where
  type : String
  headers : List Header := []

/-- An ASGI message; `fields` are its other keys. -/
structure Message where
  type : String
  headers : List Header := []
  fields : JsonObject := []
  deriving DecidableEq

/-- The calls of an application: `current_correlation_id`, `receive` and `send`. -/
inductive AppCall : Type
  | currentCorrelationId
  | receive
  | send (message : Message)

abbrev AppCall.Reply : AppCall → Type
  | .currentCorrelationId => String
  | .receive => Message
  | .send _ => Unit

/-- The calls that reach the server. -/
inductive ServerCall : Type
  | uuid4
  | receive
  | send (message : Message)

abbrev ServerCall.Reply : ServerCall → Type
  | .uuid4 => Uuid
  | .receive => Message
  | .send _ => Unit

abbrev AppTrace : Type := Trace PyException AppCall AppCall.Reply

abbrev ServerTrace : Type := Trace PyException ServerCall ServerCall.Reply

/-- An ASGI application. -/
abbrev ASGIApp : Type := Scope → Program PyException AppCall AppCall.Reply Unit

/-- A program over the server whose state is the value of `correlation_context`. -/
abbrev ServerM (α : Type) : Type :=
  Session (Option String) PyException ServerCall ServerCall.Reply α

/-! ## The middleware -/

def X_CORRELATION_ID : Bytes := asciiBytes "x-correlation-id"

/-- `headers.get(name)` of the dictionary with lower-case keys: the last one counts. -/
def headerValue (headers : List Header) (name : Bytes) : Option Bytes :=
  (headers.reverse.map fun header => (header.1.map lowerByte, header.2)).lookup name

/-- `f"corr_{uuid4().hex}"`. -/
def newCorrelationId : ServerM String := do
  let uuid ← await ServerCall.uuid4
  pure ("corr_" ++ uuid.hex)

/-- `current_correlation_id`. -/
def currentCorrelationId : ServerM String := do
  match ← read with
  | none => newCorrelationId
  | some value => if value = "" then newCorrelationId else pure value

namespace CorrelationMiddleware

/-- The id of the request with these headers. -/
def correlationId (headers : List Header) : ServerM String :=
  match headerValue headers X_CORRELATION_ID with
  | none => newCorrelationId
  | some raw => if raw = [] then newCorrelationId else pure (decodeAscii raw)

/-- `send_with_header`. -/
def sendWithHeader (correlationId : String) (message : Message) : ServerM Unit :=
  if message.type = "http.response.start" then do
    let encoded ← compute (encodeAscii correlationId)
    await (ServerCall.send
      { message with headers := message.headers ++ [(X_CORRELATION_ID, encoded)] })
  else await (ServerCall.send message)

/-- What the application's calls do, with this `send`. -/
def answer (send : Message → ServerM Unit) : (call : AppCall) → ServerM call.Reply
  | .currentCorrelationId => Genesis.currentCorrelationId
  | .receive => await ServerCall.receive
  | .send message => send message

/-- `__call__`. -/
def call (app : ASGIApp) (scope : Scope) : ServerM Unit :=
  if scope.type ≠ "http" then
    interpret (answer fun message => await (ServerCall.send message)) (app scope)
  else do
    let correlationId ← correlationId scope.headers
    let token ← read
    update fun _ => some correlationId
    tryFinally (interpret (answer (sendWithHeader correlationId)) (app scope))
      (update fun _ => token)

end CorrelationMiddleware

/-! ## Text and bytes -/

def IsAscii (text : String) : Prop := ∀ c ∈ text.toList, c.toNat < 128

theorem encodeAscii_of_isAscii {text : String} (ascii : IsAscii text) :
    encodeAscii text = .ok (asciiBytes text) := by
  have all : (text.toList.all fun c => c.toNat < 128) = true :=
    List.all_eq_true.mpr fun c member => decide_eq_true (ascii c member)
  rw [encodeAscii, if_pos all]

theorem toNat_ofNat_byte (b : UInt8) : (Char.ofNat b.toNat).toNat = b.toNat := by
  have bound : b.toNat < 256 := b.toNat_lt
  have valid : b.toNat.isValidChar := .inl (by omega)
  rw [Char.ofNat, dif_pos valid]
  rfl

/-- Lenient decoding keeps the ASCII bytes. -/
theorem isAscii_decodeAscii (raw : Bytes) : IsAscii (decodeAscii raw) := by
  intro c member
  rw [decodeAscii, String.toList_ofList] at member
  obtain ⟨b, kept, rfl⟩ := List.mem_map.mp member
  rw [toNat_ofNat_byte]
  have small : b < 128 := by simpa using (List.mem_filter.mp kept).2
  exact UInt8.lt_iff_toNat_lt.mp small

theorem decodeAscii_eq_empty_iff {raw : Bytes} :
    decodeAscii raw = "" ↔ ∀ b ∈ raw, ¬ b < 128 := by
  rw [← String.toList_eq_nil_iff, decodeAscii, String.toList_ofList, List.map_eq_nil_iff,
    List.filter_eq_nil_iff]
  simp only [decide_eq_true_eq]

theorem Uuid.isAscii (uuid : Uuid) : IsAscii ("corr_" ++ uuid.hex) := by
  intro c member
  rw [String.toList_append, List.mem_append] at member
  rcases member with fixed | digit
  · have small : "corr_".toList.all (fun c => decide (c.toNat < 128)) = true := rfl
    exact of_decide_eq_true (List.all_eq_true.mp small c fixed)
  · rcases uuid.isHex.2 c digit with ⟨-, most⟩ | ⟨-, most⟩
    · have bound : c.toNat ≤ 57 := most
      omega
    · have bound : c.toNat ≤ 102 := most
      omega

/-- An id that can be read and sent back. -/
structure Usable (id : String) : Prop where
  nonempty : id ≠ ""
  ascii : IsAscii id

theorem Uuid.usable (uuid : Uuid) : Usable ("corr_" ++ uuid.hex) where
  nonempty := by
    intro empty
    have chars := congrArg String.toList empty
    rw [String.toList_append] at chars
    exact List.cons_ne_nil _ _ chars
  ascii := uuid.isAscii

/-! ## Conversations -/

/-- The id an application reads. -/
def read? : Dialogue.Event AppCall (fun call => Except PyException call.Reply) → Option String
  | ⟨.currentCorrelationId, .ok id⟩ => some id
  | _ => none

/-- The message an application sends. -/
def sent? : Dialogue.Event AppCall (fun call => Except PyException call.Reply) → Option Message
  | ⟨.send message, _⟩ => some message
  | _ => none

/-- The message a server is given. -/
def delivered? :
    Dialogue.Event ServerCall (fun call => Except PyException call.Reply) → Option Message
  | ⟨.send message, _⟩ => some message
  | _ => none

def reads (t : AppTrace) : List String := t.filterMap read?

def sent (t : AppTrace) : List Message := t.filterMap sent?

def delivered (u : ServerTrace) : List Message := u.filterMap delivered?

/-- The message with the id as its last header, if it starts a response. -/
def withHeader (id : String) (message : Message) : Message :=
  if message.type = "http.response.start" then
    { message with headers := message.headers ++ [(X_CORRELATION_ID, asciiBytes id)] }
  else message

namespace CorrelationMiddleware

/-- The application of this request holds the conversation `t` with the middleware,
which holds `u` with the server. -/
structure Conversation (app : ASGIApp) (scope : Scope) (context : Option String) (id : String)
    (t : AppTrace) (u : ServerTrace) (result : Except PyException Unit) : Prop where
  identified : ∃ v, Runs (correlationId scope.headers) context v (.ok id) context ∧
    ∃ w final, Interprets (answer (sendWithHeader id)) (some id) t w final ∧ u = v ++ w
  runs : Dialogue.Runs (app scope) t result

section

variable {app : ASGIApp} {scope : Scope} {context final : Option String} {id : String}
  {t : AppTrace} {u : ServerTrace} {result : Except PyException Unit}

/-- Making up an id changes nothing and sends nothing. -/
theorem runs_newCorrelationId {r : Except PyException String}
    (run : Runs newCorrelationId context u r final) :
    final = context ∧ delivered u = [] ∧ ∀ id, r = .ok id → Usable id := by
  rcases runs_await_bind.mp run with ⟨e, rfl, rfl, rfl⟩ | ⟨uuid, v, rfl, made⟩
  · exact ⟨rfl, rfl, nofun⟩
  · rcases runs_pure.mp made with ⟨rfl, rfl, rfl⟩
    refine ⟨rfl, rfl, ?_⟩
    intro id same
    cases same
    exact uuid.usable

/-- The header that counts has an ASCII byte, if it is not empty. -/
def HasAsciiByte (headers : List Header) : Prop :=
  ∀ raw ∈ headerValue headers X_CORRELATION_ID, raw ≠ [] → ∃ b ∈ raw, b < 128

theorem runs_correlationId {headers : List Header} {r : Except PyException String}
    (run : Runs (correlationId headers) context u r final) :
    final = context ∧ delivered u = [] ∧
      ∀ id, r = .ok id → HasAsciiByte headers → Usable id := by
  unfold correlationId at run
  split at run
  · obtain ⟨same, silent, usable⟩ := runs_newCorrelationId run
    exact ⟨same, silent, fun id returned _ => usable id returned⟩
  next raw found =>
  split at run
  · obtain ⟨same, silent, usable⟩ := runs_newCorrelationId run
    exact ⟨same, silent, fun id returned _ => usable id returned⟩
  next nonempty =>
    rcases runs_pure.mp run with ⟨rfl, rfl, rfl⟩
    refine ⟨rfl, rfl, ?_⟩
    intro id same hasAscii
    cases same
    obtain ⟨b, member, small⟩ := hasAscii raw found nonempty
    refine ⟨?_, isAscii_decodeAscii raw⟩
    intro empty
    exact decodeAscii_eq_empty_iff.mp empty b member small

/-- A run for a request ends without the application, or it is a conversation with
it; either way the context variable has its old value again. -/
theorem runs_call (http : scope.type = "http")
    (run : Runs (call app scope) context u result final) :
    final = context ∧
      ((delivered u = [] ∧ ∃ e, result = .error e) ∨
        ∃ id t, Conversation app scope context id t u result) := by
  unfold call at run
  rw [if_neg (not_not_intro http)] at run
  rcases runs_bind.mp run with ⟨e, rfl, raised⟩ | ⟨id, s, v, w, rfl, identified, rest⟩
  · obtain ⟨same, silent, -⟩ := runs_correlationId raised
    exact ⟨same, .inl ⟨silent, e, rfl⟩⟩
  obtain ⟨rfl, -, -⟩ := runs_correlationId identified
  have ended := runs_update_bind.mp (runs_read_bind.mp rest)
  obtain ⟨last, body, rfl⟩ := runs_tryFinally_update.mp ended
  obtain ⟨t, program, served⟩ := runs_interpret_iff.mp body
  exact ⟨rfl, .inr ⟨id, t, ⟨v, identified, w, last, served, rfl⟩, program⟩⟩

/-- Every conversation takes place in a run. -/
theorem Conversation.runs_call (http : scope.type = "http")
    (conversation : Conversation app scope context id t u result) :
    Runs (call app scope) context u result context := by
  obtain ⟨⟨v, identified, w, last, served, rfl⟩, program⟩ := conversation
  unfold call
  rw [if_neg (not_not_intro http)]
  have body := runs_interpret_iff.mpr ⟨t, program, served⟩
  have ended : Runs (tryFinally (interpret (answer (sendWithHeader id)) (app scope))
      (update fun _ => context)) (some id) w result context :=
    runs_tryFinally_update.mpr ⟨last, body, rfl⟩
  exact runs_bind.mpr (.inr ⟨id, context, v, w, rfl, identified,
    runs_read_bind.mpr (runs_update_bind.mpr ended)⟩)

/-! ## One id -/

/-- One id is read all along, and is the header added to the response. -/
structure SameId (id : String) (t : AppTrace) (u : ServerTrace) : Prop where
  nonempty : id ≠ ""
  reads : ∀ read ∈ reads t, read = id
  delivered : delivered u = (sent t).map (withHeader id)

/-- The event reads this id, or delivers its message with it. -/
structure Answers (id : String)
    (event : Dialogue.Event AppCall fun call => Except PyException call.Reply) (u : ServerTrace) :
    Prop where
  read : ∀ value ∈ read? event, value = id
  delivered : delivered u = (sent? event).toList.map (withHeader id)

theorem runs_sendWithHeader (usable : Usable id) {message : Message} {r : Except PyException Unit}
    (run : Runs (sendWithHeader id message) context u r final) :
    final = context ∧ delivered u = [withHeader id message] := by
  unfold sendWithHeader at run
  split at run
  next starts =>
    rw [encodeAscii_of_isAscii usable.ascii] at run
    rcases runs_compute_bind.mp run with ⟨_, impossible, -⟩ | ⟨encoded, same, sending⟩
    · cases impossible
    cases same
    rcases runs_await.mp sending with ⟨rfl, rfl⟩
    rw [withHeader, if_pos starts]
    exact ⟨rfl, rfl⟩
  next continues =>
    rcases runs_await.mp run with ⟨rfl, rfl⟩
    rw [withHeader, if_neg continues]
    exact ⟨rfl, rfl⟩

/-- While the variable has a usable id, every call of the application keeps it. -/
theorem runs_answer (usable : Usable id) {call : AppCall} {r : Except PyException call.Reply}
    (run : Runs (answer (sendWithHeader id) call) (some id) u r final) :
    final = some id ∧ Answers id ⟨call, r⟩ u := by
  cases call with
  | currentCorrelationId =>
    have reading := runs_read_bind.mp run
    dsimp only at reading
    rw [if_neg usable.nonempty] at reading
    rcases runs_pure.mp reading with ⟨rfl, rfl, rfl⟩
    refine ⟨rfl, ?_, rfl⟩
    intro value same
    exact (Option.some.inj same).symm
  | receive =>
    rcases runs_await.mp run with ⟨rfl, rfl⟩
    exact ⟨rfl, nofun, rfl⟩
  | send message =>
    obtain ⟨same, delivers⟩ := runs_sendWithHeader usable run
    exact ⟨same, nofun, delivers⟩

theorem sameId_of_answers (nonempty : id ≠ "") {parts : List ServerTrace}
    (answers : List.Forall₂ (Answers id) t parts) : SameId id t parts.flatten := by
  induction answers with
  | nil => exact ⟨nonempty, List.forall_mem_nil _, rfl⟩
  | @cons event part t parts first _ ih =>
    refine ⟨nonempty, ?_, ?_⟩
    · intro value member
      obtain ⟨other, inTrace, found⟩ := List.mem_filterMap.mp member
      rcases List.mem_cons.mp inTrace with rfl | later
      · exact first.read value found
      · exact ih.reads value (List.mem_filterMap.mpr ⟨other, later, found⟩)
    · have head : sent (event :: t) = (sent? event).toList ++ sent t := by
        cases given : sent? event with
        | none => exact List.filterMap_cons_none given
        | some message => exact List.filterMap_cons_some given
      have joined : delivered (part :: parts).flatten =
          delivered part ++ delivered parts.flatten := List.filterMap_append
      rw [joined, head, List.map_append, first.delivered, ih.delivered]

/-- With a usable id the whole conversation has one id. -/
theorem Conversation.sameId (usable : Usable id)
    (conversation : Conversation app scope context id t u result) : SameId id t u := by
  obtain ⟨⟨v, identified, w, last, served, rfl⟩, -⟩ := conversation
  obtain ⟨-, silent, -⟩ := runs_correlationId identified
  have step : ∀ (call : AppCall) (s : Option String) (u : ServerTrace)
      (r : Except PyException call.Reply) (s' : Option String), s = some id →
      Runs (answer (sendWithHeader id) call) s u r s' → s' = some id ∧ Answers id ⟨call, r⟩ u := by
    intro call s u r s' same run
    subst same
    exact runs_answer usable run
  obtain ⟨-, parts, answers, rfl⟩ := served.segments step rfl
  have same := sameId_of_answers usable.nonempty answers
  refine ⟨same.nonempty, same.reads, ?_⟩
  rw [← same.delivered, delivered, List.filterMap_append]
  exact congrArg (· ++ delivered parts.flatten) silent

end

/-- Every request with these headers has one id, and leaves the context variable as
it was. -/
def OneIdentifier (headers : List Header) : Prop :=
  ∀ (app : ASGIApp) (scope : Scope) (context final : Option String) (u : ServerTrace)
    (result : Except PyException Unit), scope.type = "http" → scope.headers = headers →
      Runs (call app scope) context u result final →
        final = context ∧ ∀ id t, Conversation app scope context id t u result →
          ∃ same, SameId same t u

/-! ## A header outside ASCII -/

/-- The start of a response with these headers. -/
def responseStart (headers : List Header) : Message where
  type := "http.response.start"
  headers := headers

/-- An application that reads its id and starts a response. -/
def respondingApp : ASGIApp := fun _ =>
  .ask .currentCorrelationId fun _ =>
    .ask (.send (responseStart [])) fun outcome => .done outcome

def zeroUuid : Uuid where
  hex := String.ofList (List.replicate 32 '0')
  isHex := by
    refine ⟨by rw [String.length_ofList, List.length_replicate], ?_⟩
    intro c member
    rw [String.toList_ofList] at member
    rw [List.eq_of_mem_replicate member]
    exact .inl (by decide)

/-- The application reads an id that was made up for the call. -/
def respondingTrace : AppTrace :=
  [⟨.currentCorrelationId, .ok ("corr_" ++ zeroUuid.hex)⟩,
    ⟨.send (responseStart []), .ok ()⟩]

/-- The response starts with an empty header. -/
def emptyHeaderTrace : ServerTrace :=
  [⟨.uuid4, .ok zeroUuid⟩, ⟨.send (responseStart [(X_CORRELATION_ID, [])]), .ok ()⟩]

theorem conversation_emptyHeader {scope : Scope} {context : Option String} {raw : Bytes}
    (found : headerValue scope.headers X_CORRELATION_ID = some raw) (nonempty : raw ≠ [])
    (outside : ∀ b ∈ raw, ¬ b < 128) :
    Conversation respondingApp scope context "" respondingTrace emptyHeaderTrace (.ok ()) := by
  have identified : Runs (correlationId scope.headers) context [] (.ok "") context := by
    unfold correlationId
    rw [found]
    dsimp only
    rw [if_neg nonempty, decodeAscii_eq_empty_iff.mpr outside]
    exact runs_pure.mpr ⟨rfl, rfl, rfl⟩
  have read : Runs (answer (sendWithHeader "") .currentCorrelationId) (some "")
      [⟨.uuid4, .ok zeroUuid⟩] (.ok ("corr_" ++ zeroUuid.hex)) (some "") :=
    runs_read_bind.mpr (runs_await_bind.mpr (.inr ⟨zeroUuid, [], rfl,
      runs_pure.mpr ⟨rfl, rfl, rfl⟩⟩))
  have encoded : encodeAscii "" = .ok [] := encodeAscii_of_isAscii fun _ => nofun
  have started : Runs (answer (sendWithHeader "") (.send (responseStart []))) (some "")
      [⟨.send (responseStart [(X_CORRELATION_ID, [])]), .ok ()⟩] (.ok ()) (some "") :=
    runs_compute_bind.mpr (.inr ⟨[], encoded, runs_await.mpr ⟨rfl, rfl⟩⟩)
  have served : Interprets (answer (sendWithHeader "")) (some "") respondingTrace
      emptyHeaderTrace (some "") := .cons read (.cons started (.nil _))
  exact ⟨⟨[], identified, _, _, served, rfl⟩, .ask _ (.ask _ (.done _))⟩

/-- No id is the one of this conversation. -/
theorem not_sameId_emptyHeader (id : String) : ¬ SameId id respondingTrace emptyHeaderTrace := by
  intro same
  have started : withHeader id (responseStart []) =
      responseStart [(X_CORRELATION_ID, asciiBytes id)] := if_pos rfl
  have messages : [responseStart [(X_CORRELATION_ID, [])]] = [withHeader id (responseStart [])] :=
    same.delivered
  rw [started, List.singleton_inj, responseStart, responseStart, Message.mk.injEq] at messages
  obtain ⟨-, headers, -⟩ := messages
  rw [List.singleton_inj, Prod.mk.injEq] at headers
  have empty := headers.2.symm
  rw [asciiBytes, List.map_eq_nil_iff, String.toList_eq_nil_iff] at empty
  exact same.nonempty empty

/-- The context variable always has its old value again after a request, and the
request has one id exactly when the header that counts is missing, is empty, or has
an ASCII byte. -/
theorem oneIdentifier_iff (headers : List Header) :
    (OneIdentifier headers ↔ HasAsciiByte headers) ∧
      ∀ (app : ASGIApp) (scope : Scope) (context final : Option String) (u : ServerTrace)
        (result : Except PyException Unit), scope.type = "http" → scope.headers = headers →
          Runs (call app scope) context u result final → final = context := by
  refine ⟨⟨?_, ?_⟩, ?_⟩
  · intro one raw found nonempty
    by_contra outside
    have allOutside : ∀ b ∈ raw, ¬ b < 128 := fun b member small => outside ⟨b, member, small⟩
    let scope : Scope := { type := "http", headers }
    have held : Conversation respondingApp scope none "" respondingTrace emptyHeaderTrace
        (.ok ()) :=
      conversation_emptyHeader found nonempty allOutside
    obtain ⟨id, same⟩ := (one _ scope none none _ _ rfl rfl (held.runs_call rfl)).2 _ _ held
    exact not_sameId_emptyHeader id same
  · intro hasAscii app scope context final u result http same run
    refine ⟨(runs_call http run).1, ?_⟩
    intro id t conversation
    obtain ⟨v, identified, -⟩ := conversation.identified
    subst same
    exact ⟨id, conversation.sameId ((runs_correlationId identified).2.2 id rfl hasAscii)⟩
  · intro app scope context final u result http _ run
    exact (runs_call http run).1

/-- The request header b"\xff". -/
def outsideHeaders : List Header := [(X_CORRELATION_ID, [0xff])]

theorem oneIdentifier_counterexample : ¬ ∀ headers, OneIdentifier headers := by
  intro one
  let scope : Scope := { type := "http", headers := outsideHeaders }
  have found : headerValue scope.headers X_CORRELATION_ID = some [0xff] := by decide
  have held : Conversation respondingApp scope none "" respondingTrace emptyHeaderTrace (.ok ()) :=
    conversation_emptyHeader found (List.cons_ne_nil _ _)
      (List.forall_mem_singleton.mpr (by decide))
  obtain ⟨id, same⟩ :=
    (one outsideHeaders _ scope none none _ _ rfl rfl (held.runs_call rfl)).2 _ _ held
  exact not_sameId_emptyHeader id same

end CorrelationMiddleware

end Genesis
