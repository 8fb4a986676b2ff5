import Genesis.Api.Service

/-!
# One correlation id for a request and its response

The middleware settles the id of a request.  Whatever the application sends then
bears this id in the header of the response, in its content, unless that is one of
the few without an id, and, when a route that takes a payload accepts it, in the
payload (`createApp_correlates`).  It sends one response at most.
-/

namespace Genesis

open Py Session CorrelationMiddleware

/-! ## The id in a content -/

/-- The correlation id a content has. -/
def Content.correlationId? : Content → Option Json
  | .json document => document.get? "correlation_id"
  | .factory result => some (.str result.correlationId)

/-- The payload of a request, if it has one, is about this correlation id. -/
def Route.Concerns (correlationId : String) : Route → Prop
  | .internal _ (.analyzeFactory (.parsed (.ok request))) =>
    request.requirement.executionContext.correlationId = correlationId
  | .internal _ (.decideResearchSource (.parsed (.ok payload))) =>
    ∃ context : JsonObject, payload.get? "execution_context" = some (.obj context) ∧
      context.get? "correlation_id" = some (.str correlationId)
  | _ => True

/-- What the route answers with status 200 says nothing about the request. -/
def Route.Informs : Route → Prop
  | .health | .ready | .internal _ .internalHealth | .internal _ .systemInfo => True
  | _ => False

/-- The response has a content without a correlation id: fixed information with status 200,
or the answer of the framework to a body that cannot be read. -/
def Response.Anonymous (route : Route) (response : Response) : Prop :=
  response.statusCode = 200 ∧ route.Informs ∨ response.statusCode = 400 ∧ route.Unreadable

/-- The content of the response has the correlation id, unless it has none, and so does
the payload it is a success for. -/
structure Bears (correlationId : String) (route : Route) (response : Response) :
    Prop where
  anonymous : response.Anonymous route → response.content.correlationId? = none
  content : ¬ response.Anonymous route →
    response.content.correlationId? = some (.str correlationId)
  payload : response.statusCode = 200 → route.Concerns correlationId

/-- A decision has the correlation id of its request. -/
theorem ExternalResearchDecider.correlationId_of_decide {decider : ExternalResearchDecider}
    {request : ResearchDecisionRequest} {decision : ResearchDecision}
    (decided : decider.decide request = .ok decision) :
    decision.canonicalResearchDecision.get? "correlation_id" =
      some (.str request.correlationId) := by
  have result {kind : ResearchDecisionKind} {evidenceIds reasons : List String} {reason : String}
      {retrieval : Option BackendRetrievalProposal}
      (returned : decider.result request kind evidenceIds reason reasons retrieval =
        .ok decision) :
      decision.canonicalResearchDecision.get? "correlation_id" =
        some (.str request.correlationId) := by
    rw [canonical_of_result returned]
    rfl
  simp only [decide, except_bind_eq_ok] at decided
  obtain ⟨_, -, chosen⟩ := decided
  unfold choose at chosen
  repeat' split at chosen
  all_goals exact result chosen

namespace Service

section

variable {service : Service} {rendering : Rendering} {route : Route} {t : AppTrace}
  {correlationId : String} {content : Content} {response : Response}

/-! ## What the service asks of the middleware -/

def AppCall.Reads : AppCall → Prop
  | .currentCorrelationId => True
  | _ => False

theorem withCorrelationId_asksOnly {α : Type} {next : String → Except ServiceException α} :
    (withCorrelationId next).AsksOnly AppCall.Reads :=
  (Dialogue.AsksOnly.question trivial).bind fun _ => trivial

theorem handleException_asksOnly {exc : ServiceException} :
    (handleException exc).AsksOnly AppCall.Reads := by
  have answering {respond : String → Response} : (answer respond).AsksOnly AppCall.Reads :=
    (Dialogue.AsksOnly.question trivial).bind fun _ => trivial
  cases exc with
  | internalAuthError | internalBoundaryError | requestValidationError => exact answering
  | httpException | researchDecisionFailure | python => trivial

theorem dispatch_asksOnly {route : InternalRoute} :
    (service.dispatch route).AsksOnly AppCall.Reads := by
  unfold dispatch
  split
  · trivial
  · trivial
  · exact withCorrelationId_asksOnly
  · split
    · trivial
    · exact withCorrelationId_asksOnly
  · split
    · trivial
    · exact withCorrelationId_asksOnly

/-- Up to its response a request sends nothing and receives nothing. -/
theorem respond_asksOnly : (service.respond route).AsksOnly AppCall.Reads := by
  have endpoint : (service.endpoint route).AsksOnly AppCall.Reads := by
    unfold Service.endpoint
    split
    · trivial
    · trivial
    · split
      · trivial
      · exact dispatch_asksOnly
  refine endpoint.bind fun outcome => ?_
  split
  · trivial
  · exact handleException_asksOnly

theorem sent_eq_nil (only : ∀ event ∈ t, AppCall.Reads event.call) : sent t = [] := by
  refine List.filterMap_eq_nil_iff.mpr fun event member => ?_
  have reads := only event member
  obtain ⟨call, reply⟩ := event
  cases call with
  | currentCorrelationId => rfl
  | receive => cases reads
  | send message => cases reads

/-- The messages are sent in order, until one of them cannot be. -/
theorem sent_of_sendAll {pending : List Message} {r : Except PyException Unit}
    (run : Dialogue.Runs (sendAll pending) t r) :
    sent t <+: pending ∧ (r = .ok () → sent t = pending) := by
  induction pending generalizing t with
  | nil =>
    obtain ⟨rfl, rfl⟩ := Dialogue.Runs.done_iff.mp run
    exact ⟨List.prefix_rfl, fun _ => rfl⟩
  | cons message rest ih =>
    obtain ⟨_, later, outcome, rfl, asked, ended⟩ := Dialogue.Runs.bind_iff.mp run
    cases Dialogue.Runs.question_iff.mp asked
    have head : sent ([⟨.send message, outcome⟩] ++ later) = message :: sent later := rfl
    rw [head]
    cases outcome with
    | error exc =>
      obtain ⟨rfl, rfl⟩ := Dialogue.Runs.done_iff.mp ended
      exact ⟨(List.prefix_cons_inj message).mpr List.nil_prefix, nofun⟩
    | ok _ =>
      obtain ⟨within, complete⟩ := ih ended
      exact ⟨(List.prefix_cons_inj message).mpr within, fun same => by rw [complete same]⟩

/-! ## The id in a response -/

/-- A content with the id bears it, where an id is due. -/
theorem bears_of_identified (due : ¬ response.Anonymous route)
    (identified : response.content.correlationId? = some (.str correlationId))
    (concerns : response.statusCode = 200 → route.Concerns correlationId) :
    Bears correlationId route response :=
  ⟨fun anonymous => absurd anonymous due, fun _ => identified, concerns⟩

theorem bears_of_failure {code message : String} {statusCode : ℕ} {retryable : Bool}
    {details : Option Json} (known : (code, statusCode, retryable) ∈ FAILURES) :
    Bears correlationId route
      { statusCode
        content := errorDocument code message details correlationId retryable } := by
  have failure : ∀ row ∈ FAILURES, row.2.1 ≠ 200 ∧ row.2.1 ≠ 400 := by decide
  obtain ⟨unlike200, unlike400⟩ := failure _ known
  refine bears_of_identified ?_ ?_ fun success => absurd success unlike200
  · rintro (⟨success, -⟩ | ⟨unread, -⟩)
    · exact unlike200 success
    · exact unlike400 unread
  · cases details <;> rfl

theorem bears_of_unreadable (body : route.Unreadable) :
    Bears correlationId route unreadableResponse :=
  ⟨fun _ => rfl, fun due => absurd (.inr ⟨rfl, body⟩) due, nofun⟩

/-- A success of a route that does more than inform has an id. -/
theorem not_anonymous (speaks : ¬ route.Informs) :
    ¬ Response.Anonymous route { content } := by
  rintro (⟨-, informs⟩ | ⟨failed, -⟩)
  · exact speaks informs
  · cases failed

/-- Information about the service bears no id. -/
theorem bears_of_informs {document : JsonObject} (informs : route.Informs)
    (absent : document.get? "correlation_id" = none) (concerns : route.Concerns correlationId) :
    Bears correlationId route { content := .json document } :=
  ⟨fun _ => absent, fun due => absurd (.inl ⟨rfl, informs⟩) due, fun _ => concerns⟩

theorem bears_of_analyzeFactory {authorization : Option String}
    {request : FactoryAnalysisRequest}
    (answered : service.analyzeFactory request correlationId = .ok content) :
    Bears correlationId (.internal authorization (.analyzeFactory (.parsed (.ok request))))
      { content } := by
  unfold analyzeFactory at answered
  split at answered
  · cases answered
  next same =>
  simp only [except_bind_eq_ok, asBoundary_eq_ok_iff, raised_eq_ok_iff] at answered
  obtain ⟨path, -, contracts, -, result, analyzed, returned⟩ := answered
  cases returned
  refine bears_of_identified (not_anonymous id) ?_ fun _ => not_not.mp same
  rw [Content.correlationId?, CapabilityFactory.correlationId_of_analyze analyzed,
    not_not.mp same]

theorem bears_of_decideResearchSource {authorization : Option String} {payload : JsonObject}
    (answered : service.decideResearchSource payload correlationId = .ok content) :
    Bears correlationId (.internal authorization (.decideResearchSource (.parsed (.ok payload))))
      { content } := by
  simp only [decideResearchSource, except_bind_eq_ok, handled_eq_ok_iff,
    decideResearch_eq_ok_iff] at answered
  obtain ⟨path, -, contracts, context, arguments, request, decision, -, -, found, correlated, read,
    built, chosen, rfl⟩ := answered
  have sameId : request.correlationId = correlationId :=
    (fills_of_decisionRequest built).correlationId.trans (reads_of_readArguments read).correlationId
  refine bears_of_identified (not_anonymous id) ?_ fun _ => ⟨context, found, correlated⟩
  rw [← sameId]
  exact ExternalResearchDecider.correlationId_of_decide chosen

/-- What a route returns bears the id it read. -/
theorem bears_of_returns {authorization : Option String} {route : InternalRoute}
    (read : ∀ id ∈ reads t, id = correlationId) (returns : Returns service route t content) :
    Bears correlationId (.internal authorization route) { content } := by
  cases returns with
  | internalHealth | systemInfo => exact bears_of_informs trivial rfl trivial
  | integrationDiagnostic current =>
    cases read current List.mem_cons_self
    exact bears_of_identified (not_anonymous id) rfl fun _ => trivial
  | analyzeFactory answered =>
    cases read _ List.mem_cons_self
    exact bears_of_analyzeFactory answered
  | decideResearchSource answered =>
    cases read _ List.mem_cons_self
    exact bears_of_decideResearchSource answered

theorem bears_of_endpoint (read : ∀ id ∈ reads t, id = correlationId)
    (run : Dialogue.Runs (service.endpoint route) t (.ok content)) :
    Bears correlationId route { content } := by
  cases route with
  | health | ready =>
    cases (Dialogue.Runs.done_iff.mp run).2
    exact bears_of_informs trivial rfl trivial
  | internal authorization route => exact bears_of_returns read (returns_of_endpoint run)

/-- A response bears the one id that was read for it. -/
theorem bears_of_respond (read : ∀ id ∈ reads t, id = correlationId)
    (run : Dialogue.Runs (service.respond route) t (.ok response)) :
    Bears correlationId route response := by
  obtain ⟨t₁, t₂, outcome, rfl, first, rest⟩ := Dialogue.Runs.bind_iff.mp run
  have split : reads (t₁ ++ t₂) = reads t₁ ++ reads t₂ := List.filterMap_append
  rw [split] at read
  rcases runs_endpoint first with
    ⟨content, rfl⟩ | ⟨exc, rfl, answered⟩ | ⟨rfl, body⟩ | ⟨e, rfl, -⟩
  · obtain ⟨rfl, same⟩ := Dialogue.Runs.done_iff.mp rest
    cases same
    exact bears_of_endpoint (fun id member => read id (List.mem_append_left _ member)) first
  · obtain ⟨respond, answers, code, statusCode, retryable, message, details, known, shape⟩ :=
      answered
    obtain ⟨reply, rfl, same⟩ := runs_answered answers rest
    cases reply with
    | error e => cases same
    | ok id =>
      cases read id (List.mem_append_right _ List.mem_cons_self)
      cases same
      rw [shape]
      exact bears_of_failure known
  · cases (Dialogue.Runs.done_iff.mp rest).2
    exact bears_of_unreadable body
  · obtain ⟨-, impossible⟩ := Dialogue.Runs.done_iff.mp rest
    cases impossible

end

/-- A request whose header can be read is answered under one correlation id, unless it
ends in an exception before anything is sent: what reaches the server is one response,
or the beginning of one, and the id is in its header, in its content, unless that is
information about the service or the answer to a body that cannot be read, and in the payload
it is a success for.  Afterwards the context variable has its old value again. -/
theorem createApp_correlates (service : Service) (rendering : Rendering) (route : Route)
    (scope : Scope) (context final : Option String) (u : ServerTrace)
    (result : Except PyException Unit) (http : scope.type = "http")
    (ascii : HasAsciiByte scope.headers)
    (run : Session.Runs (call (service.createApp rendering route) scope) context u result final) :
    final = context ∧
      ((delivered u = [] ∧ ∃ exc, result = .error exc) ∨
        ∃ correlationId response, correlationId ≠ "" ∧ Bears correlationId route response ∧
          delivered u <+: (messages rendering response).map (withHeader correlationId) ∧
          (result = .ok () →
            delivered u = (messages rendering response).map (withHeader correlationId))) := by
  obtain ⟨same, silent | ⟨correlationId, t, conversation⟩⟩ := runs_call http run
  · exact ⟨same, .inl silent⟩
  refine ⟨same, ?_⟩
  obtain ⟨v, identified, -⟩ := conversation.identified
  have one := conversation.sameId ((runs_correlationId identified).2.2 _ rfl ascii)
  obtain ⟨t₁, t₂, outcome, rfl, responding, sending⟩ := Dialogue.Runs.bind_iff.mp conversation.runs
  have unsent : sent t₁ = [] := sent_eq_nil (responding.asksOnly respond_asksOnly)
  have later : sent (t₁ ++ t₂) = sent t₂ := by
    have split : sent (t₁ ++ t₂) = sent t₁ ++ sent t₂ := List.filterMap_append
    rw [split, unsent, List.nil_append]
  have given : delivered u = (sent t₂).map (withHeader correlationId) := by
    rw [one.delivered, later]
  cases outcome with
  | error exc =>
    obtain ⟨rfl, failed⟩ := Dialogue.Runs.done_iff.mp sending
    exact .inl ⟨given, exc, failed⟩
  | ok response =>
    have read : ∀ id ∈ reads t₁, id = correlationId := fun id member =>
      one.reads id (by
        have split : reads (t₁ ++ t₂) = reads t₁ ++ reads t₂ := List.filterMap_append
        rw [split]
        exact List.mem_append_left _ member)
    obtain ⟨within, complete⟩ := sent_of_sendAll sending
    refine .inr ⟨correlationId, response, one.nonempty, bears_of_respond read responding, ?_, ?_⟩
    · rw [given]
      exact within.map _
    · intro ended
      rw [given, complete ended]

/-! ## A request of the tests -/

/-- A server that takes every message. -/
def listening : (call : ServerCall) → Except PyException call.Reply
  | .uuid4 => .ok zeroUuid
  | .receive => .ok { type := "http.request" }
  | .send _ => .ok ()

def researchRoute : Route :=
  .internal (some "Bearer test-only-token")
    (.decideResearchSource (.parsed (.ok (researchPayload "EXTERNAL"))))

def plainRendering : Rendering where
  headers _ := [(asciiBytes "content-type", asciiBytes "application/json")]
  body content :=
    match content with
    | .json document => .obj document
    | .factory _ => .null

def researchScope : Scope where
  type := "http"
  headers := [(asciiBytes "X-Correlation-ID", asciiBytes "corr_genesis_research_external_001")]

def researchRun : ServerTrace × Except PyException Unit × Option String :=
  Dialogue.converse (fun _ => listening) []
    ((call (acceptingService.createApp plainRendering researchRoute) researchScope).run.run none)

theorem createApp_correlates_research :
    researchRun.2 = (.ok (), none) ∧ ∃ correlationId response, correlationId ≠ "" ∧
      Bears correlationId researchRoute response ∧
        delivered researchRun.1 =
          (messages plainRendering response).map (withHeader correlationId) := by
  have finished : researchRun.2 = (.ok (), none) := by decide +kernel
  have ascii : HasAsciiByte researchScope.headers := by
    rintro raw found -
    cases found
    exact ⟨99, by decide, by decide⟩
  have run : Session.Runs (call (acceptingService.createApp plainRendering researchRoute)
      researchScope) none researchRun.1 researchRun.2.1 researchRun.2.2 :=
    Dialogue.converse_runs _ [] _
  refine ⟨finished, ?_⟩
  rcases (createApp_correlates _ _ _ _ _ _ _ _ rfl ascii run).2 with
    ⟨-, exc, raises⟩ | ⟨correlationId, response, nonempty, bears, -, complete⟩
  · rw [finished] at raises
    cases raises
  · exact ⟨correlationId, response, nonempty, bears, complete (by rw [finished])⟩

end Service

end Genesis
