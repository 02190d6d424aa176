import CloudWard.Security.Rows

/-!
# Reversing a quarantine

A removal asked of an applied quarantine while OPA allows it and Kubernetes answers as its
objects are: it succeeds where the incident has an attempt left and the target can be
reached, and leaves the cluster without the policy and the label.
-/

namespace CloudWard.Security

open CloudWard.Db CloudWard.Incidents CloudWard.Kubernetes CloudWard.Logic CloudWard.Policies
  CloudWard.Remediation Service

/-! ### Names -/

private theorem alphanumeric_of_isHexDigit {c : Char} (h : isHexDigit c) :
    validName.alphanumeric c := by
  simp only [isHexDigit, decide_eq_true_eq] at h
  simp only [validName.alphanumeric, decide_eq_true_eq]
  rcases h with h | h
  · exact .inr h
  · have hz : 'f' ≤ 'z' := by decide
    exact .inl ⟨h.1, Char.le_trans h.2 hz⟩

private theorem toList_quarantineName : "cloudward-quarantine-".toList =
    ['c', 'l', 'o', 'u', 'd', 'w', 'a', 'r', 'd', '-', 'q', 'u', 'a', 'r', 'a', 'n', 't', 'i',
      'n', 'e', '-'] :=
  String.toList_ofList

/-- A beginning of a name and hexadecimal digits make a name. -/
private theorem validName_append {name : String} {start digits : List Char}
    (hname : name.toList = start ++ digits) (hdigits : digits ≠ [])
    (hhex : ∀ c ∈ digits, isHexDigit c) (hhead : ∀ c ∈ start.head?, validName.alphanumeric c)
    (hstart : ∀ c ∈ start, validName.alphanumeric c ∨ c = '-' ∨ c = '.')
    (hlength : start.length + digits.length ≤ 253) : validName name := by
  have halnum : ∀ c ∈ digits, validName.alphanumeric c :=
    fun c hc ↦ alphanumeric_of_isHexDigit (hhex c hc)
  have hlast : (start ++ digits).getLast? = some (digits.getLast hdigits) := by
    rw [List.getLast?_append, List.getLast?_eq_some_getLast hdigits, Option.some_or]
  have hfirst : ∀ c ∈ (start ++ digits).head?, validName.alphanumeric c := by
    intro c hc
    cases start with
    | nil => exact halnum c (List.mem_of_mem_head? hc)
    | cons first rest => exact hhead c hc
  simp only [validName, decide_eq_true_eq, ← String.length_toList, hname, List.length_append,
    List.all_append, Bool.and_eq_true, List.all_eq_true]
  refine ⟨hlength, ?_, ?_, ?_, ?_⟩
  · cases hhd : (start ++ digits).head? with
    | none => simp [hdigits] at hhd
    | some c => exact hfirst c hhd
  · rw [hlast]
    exact halnum _ (List.getLast_mem hdigits)
  · intro c hc
    exact hstart c hc
  · intro c hc
    exact .inl (halnum c hc)

/-- The names of a valid event's quarantine are names. -/
theorem Origin.Valid.names {event : SecurityEvent} (h : (originOf event).Valid) :
    validName (quarantineIdOf event) ∧ validName (policyNameOf event) := by
  have hlength : (event.uuid.toList.take 12).length = 12 := by
    have huuid : event.uuid.toList.length = 32 := h.uuid.1
    rw [List.length_take, huuid]
    rfl
  have hne : event.uuid.toList.take 12 ≠ [] := by
    intro hnil
    rw [hnil] at hlength
    exact absurd hlength (by decide)
  have hhex : ∀ c ∈ event.uuid.toList.take 12, isHexDigit c :=
    fun c hc ↦ List.all_eq_true.mp h.uuid.2 c (List.mem_of_mem_take hc)
  constructor
  · have hname : (quarantineIdOf event).toList = [] ++ event.uuid.toList.take 12 :=
      String.toList_ofList
    apply validName_append hname hne hhex
    · simp
    · simp
    · rw [hlength]
      decide
  · have hname : (policyNameOf event).toList =
        "cloudward-quarantine-".toList ++ event.uuid.toList.take 12 := by
      unfold policyNameOf quarantinePolicyName quarantineIdOf
      rw [String.toList_append]
      exact congrArg _ String.toList_ofList
    apply validName_append hname hne hhex
    · rw [toList_quarantineName]
      simp [validName.alphanumeric]
    · rw [toList_quarantineName]
      simp [validName.alphanumeric]
    · rw [hlength]
      decide

/-! ### A cluster that answers -/

/-- OPA allows, no statement fails, reads return the objects of the cluster, the two
requests of a removal are done on objects that are there, and a pod without the quarantine
label has its egress. -/
structure Answering (env : Env) : Prop where
  quiet : Quiet env
  allows : ∀ w input, (env.opa w input).allowed
  readPod : ∀ w ns name, env.readPod w ns name =
    (w.cluster.pod? ns name).elim (.error (.api 404)) .ok
  readPolicy : ∀ w ns name, env.readPolicy w ns name =
    (w.cluster.policy? ns name).elim (.error (.api 404)) .ok
  deletePolicy : ∀ w ns name, (w.cluster.policy? ns name).isSome →
    env.request w (.deletePolicy ns name) = .done
  patchLabel : ∀ w ns name value, (w.cluster.pod? ns name).isSome →
    env.request w (.patchQuarantineLabel ns name value) = .done
  egress : ∀ w ns name pod, w.cluster.pod? ns name = some pod →
    pod.labels.lookup quarantineLabel = none → env.probeEgress w ns name = .ok true

/-- Names that the executor accepts, in a namespace it may act in. -/
structure Accepted (settings : Settings) (ns pod policyName quarantineId : String) : Prop where
  ns_valid : validName ns
  ns_allowed : ns ∈ settings.allowedNamespaces
  pod_valid : validName pod
  policyName_valid : validName policyName
  quarantineId_valid : validName quarantineId

section Progress

variable {env : Env} {settings : Settings} {w : World} {ns name policyName quarantineId : String}
variable {pod : PodState}

theorem Answering.reaches_getPodHealth (h : Answering env) (hns : validName ns)
    (hname : validName name) (hpod : w.cluster.pod? ns name = some pod) :
    Reaches (getPodHealth env ns name) w pod w := by
  apply reaches_bind (reaches_validateName hns)
  intro _
  apply reaches_bind (reaches_validateName hname)
  intro _
  apply reaches_wrapping
  apply reaches_call
  rw [h.readPod]
  exact congrArg (Option.elim · _ _) hpod

private theorem Answering.reaches_readQuarantinePolicy (h : Answering env) (w : World) :
    Reaches (readQuarantinePolicy env ns policyName) w (w.cluster.policy? ns policyName) w := by
  have hread := h.readPolicy w ns policyName
  cases hpolicy : w.cluster.policy? ns policyName with
  | some policy =>
    rw [hpolicy] at hread
    exact reaches_tryCatch (reaches_bind (reaches_call hread) fun _ ↦ reaches_pure _ _)
  | none =>
    rw [hpolicy] at hread
    use w.tick + 1
    unfold readQuarantinePolicy
    rw [Exec.run_tryCatch, Exec.run_bind, run_call, hread]
    rfl

/-- What the state of a policy is read as. -/
def policyStateOf (cluster : Cluster) (ns policyName quarantineId : String) (pod : PodState) :
    QuarantinePolicyState where
  policyExists := (cluster.policy? ns policyName).any fun policy ↦
    policy.matchLabels = quarantineSelector quarantineId
  targetLabelMatches := pod.labels.lookup quarantineLabel = some quarantineId
  denyAllEgress := (cluster.policy? ns policyName).any (·.egressDenyAll)

theorem Answering.reaches_policyState (h : Answering env)
    (hnames : Accepted settings ns name policyName quarantineId)
    (hpod : w.cluster.pod? ns name = some pod) :
    Reaches (getQuarantinePolicyState env settings ns name policyName quarantineId) w
      (policyStateOf w.cluster ns policyName quarantineId pod) w := by
  apply reaches_bind (reaches_requireNamespace hnames.ns_valid hnames.ns_allowed)
  intro _
  apply reaches_bind (reaches_validateName hnames.pod_valid)
  intro _
  apply reaches_bind (reaches_validateName hnames.policyName_valid)
  intro _
  apply reaches_bind (reaches_validateName hnames.quarantineId_valid)
  intro _
  apply reaches_bind (h.reaches_readQuarantinePolicy _)
  intro _
  apply reaches_bind (h.reaches_getPodHealth hnames.ns_valid hnames.pod_valid (by exact hpod))
  intro _
  exact reaches_pure _ _

theorem Answering.reaches_probe (h : Answering env) (hns : validName ns)
    (hallowed : ns ∈ settings.allowedNamespaces) (hname : validName name)
    (hpod : w.cluster.pod? ns name = some pod) (hdemo : isDemoTarget pod.labels)
    (hlabel : pod.labels.lookup quarantineLabel = none) :
    Reaches (probeControlledSecurityEgress env settings ns name) w true w := by
  apply reaches_bind (reaches_requireNamespace hns hallowed)
  intro _
  apply reaches_bind (reaches_validateName hname)
  intro _
  apply reaches_bind (h.reaches_getPodHealth hns hname (by exact hpod))
  intro _
  apply reaches_bind (reaches_require hdemo)
  intro _
  exact reaches_wrapping (reaches_call (h.egress _ ns name pod hpod hlabel))

/-- The cluster without a quarantine. -/
def released (cluster : Cluster) (ns name policyName : String) : Cluster :=
  (cluster.apply (.deletePolicy ns policyName)).apply (.patchQuarantineLabel ns name none)

theorem policy?_released (cluster : Cluster) (ns name policyName : String) :
    (released cluster ns name policyName).policy? ns policyName = none := by
  unfold released
  rw [Cluster.policy?_apply_patchQuarantineLabel, Cluster.policy?_apply_deletePolicy,
    if_pos ⟨rfl, rfl⟩]

theorem pod?_released (cluster : Cluster) (ns name policyName : String)
    (h : cluster.pod? ns name = some pod) :
    (released cluster ns name policyName).pod? ns name =
      some { pod with labels := Cluster.patchLabels pod.labels none } := by
  unfold released
  rw [Cluster.pod?_apply_patchQuarantineLabel, Cluster.pod?_apply_deletePolicy, h,
    Option.map_some, if_pos ⟨rfl, rfl⟩]

theorem quarantineIdOf_released (cluster : Cluster) (ns name policyName : String)
    (h : cluster.pod? ns name = some pod) :
    (released cluster ns name policyName).quarantineIdOf ns name = none := by
  unfold Cluster.quarantineIdOf
  rw [pod?_released cluster ns name policyName h]
  exact Cluster.lookup_patchLabels pod.labels none

/-- A policy that is its quarantine's is removed along with the label. -/
theorem Answering.reaches_removeQuarantinePolicy (h : Answering env)
    (hnames : Accepted settings ns name policyName quarantineId)
    (hpod : w.cluster.pod? ns name = some pod)
    (hpolicy : ∃ policy, w.cluster.policy? ns policyName = some policy ∧
      policy.matchLabels = quarantineSelector quarantineId) :
    Reaches (removeQuarantinePolicy env settings ns name policyName quarantineId) w
      (policyStateOf (released w.cluster ns name policyName) ns policyName quarantineId
        { pod with labels := Cluster.patchLabels pod.labels none })
      { w with
        cluster := released w.cluster ns name policyName
        trace := .mutated (.patchQuarantineLabel ns name none) ::
          .mutated (.deletePolicy ns policyName) :: w.trace } := by
  obtain ⟨policy, hsome, hlabels⟩ := hpolicy
  have hexists : (policyStateOf w.cluster ns policyName quarantineId pod).policyExists := by
    simp only [policyStateOf, hsome, Option.any_some, hlabels, decide_true]
  apply reaches_bind (reaches_requireNamespace hnames.ns_valid hnames.ns_allowed)
  intro _
  apply reaches_bind (reaches_validateName hnames.pod_valid)
  intro _
  apply reaches_bind (reaches_validateName hnames.policyName_valid)
  intro _
  apply reaches_bind (reaches_validateName hnames.quarantineId_valid)
  intro _
  apply reaches_bind (h.reaches_policyState hnames (by exact hpod))
  intro _
  apply reaches_bind
  · apply reaches_when hexists
    apply reaches_tryCatch
    apply reaches_send
    apply h.deletePolicy
    exact Option.isSome_of_eq_some hsome
  intro _
  apply reaches_bind
  · apply reaches_send
    apply h.patchLabel
    rw [Cluster.pod?_apply_deletePolicy]
    exact Option.isSome_of_eq_some hpod
  intro _
  exact h.reaches_policyState hnames (pod?_released w.cluster ns name policyName hpod)

/-- A check that succeeds ends its polling. -/
theorem reaches_pollUntil {check : Service ContainmentVerification}
    {verification : ContainmentVerification} (hcheck : ∀ n, Reaches check { w with tick := n }
      verification w) (hsuccess : verification.success = some true) (left n : Nat) :
    Reaches (pollUntil check left) { w with tick := n } verification w := by
  cases left with
  | zero => exact hcheck n
  | succ left =>
    apply reaches_bind (hcheck n)
    intro _
    exact reaches_ite hsuccess (reaches_pure _ _)

/-- What a release is verified as. -/
def releaseVerified : ContainmentVerification :=
  verificationOf
    [("cilium_policy_removed", true), ("target_label_removed", true),
      ("controlled_egress_restored", true)]

theorem Answering.reaches_waitForRelease (h : Answering env) {event : SecurityEvent}
    (hnames : Accepted settings event.ns event.pod policyName (quarantineIdOf event))
    (hpod : w.cluster.pod? event.ns event.pod = some pod) (hdemo : isDemoTarget pod.labels)
    (hlabel : pod.labels.lookup quarantineLabel = none)
    (hpolicy : w.cluster.policy? event.ns policyName = none) :
    Reaches (waitForRelease env settings event policyName) w releaseVerified w := by
  have hstate : policyStateOf w.cluster event.ns policyName (quarantineIdOf event) pod =
      ⟨false, false, false⟩ := by
    unfold policyStateOf
    rw [hpolicy, hlabel]
    rfl
  have hcheck (n : Nat) : Reaches (checkRelease env settings event policyName)
      { w with tick := n } releaseVerified w := by
    apply reaches_bind (h.reaches_policyState hnames (by exact hpod))
    intro _
    apply reaches_bind (h.reaches_probe hnames.ns_valid hnames.ns_allowed hnames.pod_valid
      (by exact hpod) hdemo hlabel)
    intro _
    simp only [hstate]
    exact ⟨_, rfl⟩
  apply reaches_bind (reaches_ask _ w)
  intro n
  exact reaches_pollUntil hcheck rfl _ n

private theorem reaches_setContainment (s : Subject) (recordId : Nat)
    (status : ContainmentStatus) (w : World) :
    Reaches (setContainment s recordId status) w () { w with db := { w.db with
      quarantineRecords := w.db.quarantineRecords.update recordId ({ · with status })
      securityEvents := w.db.securityEvents.update s.eventId fun event ↦
        { event with containmentStatus := status } } } := ⟨w.tick, rfl⟩

private theorem reaches_setVerification (recordId : Nat)
    (verification : ContainmentVerification) (w : World) :
    Reaches (setVerification recordId verification) w () { w with db := { w.db with
      quarantineRecords :=
        w.db.quarantineRecords.update recordId ({ · with verification }) } } := ⟨w.tick, rfl⟩

private theorem reaches_endExecution (executionId : Nat) (status : RecordStatus)
    (errorCode : Option String) (w : World) :
    Reaches (endExecution executionId status errorCode) w () { w with db := { w.db with
      executions := w.db.executions.update executionId ({ · with status, errorCode }) } } :=
  ⟨w.tick, rfl⟩

private theorem reaches_updateProposal (id : Nat) (f : ActionProposal → ActionProposal)
    (w : World) :
    Reaches (updateProposal id f) w () { w with db := { w.db with
      proposals := w.db.proposals.update id f } } := ⟨w.tick, rfl⟩

private theorem resolved_mem_verifying :
    IncidentState.resolved ∈ allowedTransitions .verifying := by decide

/-- A verifying incident is resolved; any other is left as it is. -/
private theorem returns_resolve (hq : Quiet env) {incidentId : Nat} {incident : Incident}
    (hincident : w.db.incidents[incidentId]? = some incident) (actor : String) :
    Returns (Exec.when (incident.state = .verifying) do
      updateIncident incidentId fun incident ↦
        { incident with resolutionSource := some .cloudwardRemediation }
      changeIncidentState env settings incidentId .resolved actor) w
      fun _ w' ↦ w'.cluster = w.cluster := by
  apply returns_when
  · intro hverifying
    apply returns_bind (reaches_write _ _)
    intro n
    have hstate : (w.db.incidents.update incidentId fun incident ↦
        { incident with resolutionSource := some .cloudwardRemediation })[incidentId]?.map
          (·.state) = some .verifying := by
      rw [Table.getElem?_update_self, hincident]
      exact congrArg some hverifying
    obtain ⟨_, _, hrun, now, t, _, _, m, rfl⟩ := returns_changeIncidentState hq settings actor {}
      (w := { w with
        db := { w.db with incidents := w.db.incidents.update incidentId fun incident ↦
          { incident with resolutionSource := some .cloudwardRemediation } }
        tick := n }) hstate resolved_mem_verifying (by decide)
    exact ⟨_, _, hrun, rfl⟩
  · intro _
    rfl

/-- A removal that has begun is released. -/
theorem Answering.returns_release (h : Answering env) {c : Containment}
    (hnames : Accepted settings c.subject.event.ns c.subject.event.pod c.policyName
      (quarantineIdOf c.subject.event))
    (hpod : w.cluster.pod? c.subject.event.ns c.subject.event.pod = some pod)
    (hdemo : isDemoTarget pod.labels)
    (hpolicy : ∃ policy, w.cluster.policy? c.subject.event.ns c.policyName = some policy ∧
      policy.matchLabels = quarantineSelector (quarantineIdOf c.subject.event))
    {incident : Incident} (hincident : w.db.incidents[c.subject.incidentId]? = some incident)
    (executionId : Nat) (actor : String) :
    Returns (release env settings c executionId actor) w fun _ w' ↦
      w'.cluster = released w.cluster c.subject.event.ns c.subject.event.pod c.policyName := by
  have hpatched := pod?_released w.cluster c.subject.event.ns c.subject.event.pod c.policyName hpod
  have hdemo' : isDemoTarget (Cluster.patchLabels pod.labels none) := by
    unfold isDemoTarget at hdemo ⊢
    rw [Cluster.lookup_patchLabels_of_ne _ _ (by decide)]
    exact hdemo
  apply returns_bind (h.reaches_removeQuarantinePolicy hnames hpod hpolicy)
  intro _
  apply returns_bind
  · exact h.reaches_waitForRelease hnames hpatched hdemo'
      (Cluster.lookup_patchLabels pod.labels none) (policy?_released _ _ _ _)
  intro _
  apply returns_bind (reaches_require rfl)
  intro _
  apply returns_bind (reaches_setContainment _ _ _ _)
  intro _
  apply returns_bind (reaches_setVerification _ _ _)
  intro _
  apply returns_bind (reaches_endExecution _ _ _ _)
  intro _
  apply returns_bind (reaches_updateProposal _ _ _)
  intro _
  apply returns_bind (reaches_loadIncident (by exact hincident))
  intro _
  apply (returns_resolve h.quiet (by exact hincident) actor).bind
  intro _ w' hcluster
  apply returns_bind (reaches_flush h.quiet _)
  intro _
  apply returns_bind (reaches_commit h.quiet _)
  intro _
  apply returns_bind (reaches_flush h.quiet _)
  intro _
  exact (reaches_pure _ _).returns fun _ ↦ hcluster

/-! ### Up to the release -/

/-- The highest attempt is one of the skeleton's. -/
theorem highestAttempt_congr {db db' : Database}
    (h : db.executions.map executionColumns = db'.executions.map executionColumns)
    (incidentId : Nat) : highestAttempt db incidentId = highestAttempt db' incidentId := by
  have hcolumns (db : Database) : (db.executions.filter (·.incidentId = incidentId)).map
      (·.attempt) = ((db.executions.map executionColumns).filter (·.1 = incidentId)).map
        (·.2.1) := by
    rw [List.filter_map, List.map_map]
    rfl
  unfold highestAttempt
  rw [hcolumns, hcolumns, h]

/-- An attempt of an incident is at most its highest. -/
theorem attempt_le_highestAttempt {db : Database} {e : ActionExecution}
    (he : e ∈ db.executions) : e.attempt ≤ highestAttempt db e.incidentId := by
  have hmem : e.attempt ∈
      (db.executions.filter (·.incidentId = e.incidentId)).map (·.attempt) := by
    apply List.mem_map_of_mem
    simp [he]
  have hfold : ∀ (attempts : List Nat) (least : Nat), (∀ n ∈ attempts, n ≤ attempts.foldl max least)
      ∧ least ≤ attempts.foldl max least := by
    intro attempts
    induction attempts with
    | nil => simp
    | cons n rest ih =>
      intro least
      obtain ⟨hrest, hleast⟩ := ih (max least n)
      simp only [List.mem_cons, List.foldl_cons, forall_eq_or_imp]
      exact ⟨⟨by omega, hrest⟩, by omega⟩
  exact (hfold _ 0).1 _ hmem

/-- The next attempt of an incident violates no constraint. -/
private theorem executionIsUnique_next {db : Database} {s : Subject} {proposalId : Nat}
    {action : ActionType} (hsourced : (skeleton db).Sourced)
    (h : 1 ≤ highestAttempt db s.incidentId + 1 ∧ highestAttempt db s.incidentId + 1 ≤ 3) :
    executionIsUnique db.executions
      (executionRow s proposalId action (highestAttempt db s.incidentId + 1) h) := by
  intro e he
  have hle := attempt_le_highestAttempt he
  constructor
  · intro heq
    simp only [executionRow, Prod.mk.injEq] at heq
    rw [heq.1] at hle
    omega
  · intro _ hkey
    have hkeyed := hsourced.keyed (executionColumns e) (List.mem_map_of_mem he) _ _ _ _ _ hkey
    simp only [executionColumns] at hkeyed
    rw [hkeyed.1] at hle
    omega

private theorem returns_newExecution (hq : Quiet env) {s : Subject} (proposalId : Nat)
    (action : ActionType) (hsourced : (skeleton w.db).Sourced)
    (hleft : highestAttempt w.db s.incidentId < 3) :
    Returns (newExecution env s proposalId action) w fun _ w' ↦
      w'.cluster = w.cluster ∧ w'.db.incidents = w.db.incidents := by
  apply returns_bind (reaches_query hq _ w)
  intro _
  split
  · next h =>
    apply returns_bind (reaches_read _ _)
    intro _
    apply returns_bind
    · exact reaches_exec_require (executionIsUnique_next hsourced ⟨Nat.le_add_left 1 _, h⟩)
    intro _
    apply returns_bind (reaches_write _ _)
    intro _
    apply returns_bind (reaches_flush hq _)
    intro _
    exact (reaches_pure _ _).returns fun _ ↦ ⟨rfl, rfl⟩
  · next h => exact absurd hleft h

/-- A removal begins where an attempt is left. -/
theorem returns_beginRemoval (hq : Quiet env) {c : Containment}
    (hsourced : (skeleton w.db).Sourced)
    (hleft : highestAttempt w.db c.subject.incidentId < 3) :
    Returns (beginRemoval env c) w fun _ w' ↦
      w'.cluster = w.cluster ∧ w'.db.incidents = w.db.incidents := by
  obtain ⟨w₁, hset, hskeleton, hcluster, hincidents, hhighest⟩ :
      ∃ w₁, (setContainment c.subject c.recordId .removing).run w = (.ok (), w₁) ∧
        skeleton w₁.db = skeleton w.db ∧ w₁.cluster = w.cluster ∧
        w₁.db.incidents = w.db.incidents ∧
        highestAttempt w₁.db c.subject.incidentId = highestAttempt w.db c.subject.incidentId :=
    ⟨_, rfl, congrArg Prod.fst (frames_skeleton_setContainment c.recordId .removing w), rfl, rfl,
      rfl⟩
  rw [← hskeleton] at hsourced
  rw [← hhighest] at hleft
  obtain ⟨a, w', hrun, hcluster', hincidents'⟩ :=
    returns_newExecution hq c.proposalId .removeQuarantine hsourced hleft
  use a, w'
  constructor
  · unfold beginRemoval
    rw [Exec.run_bind_of_ok hset, hrun]
  · exact ⟨hcluster'.trans hcluster, hincidents'.trans hincidents⟩

theorem reaches_eventAndIncident (hq : Quiet env) {s : Subject}
    (hread : s.ReadFrom s.eventId w.db) : Reaches (eventAndIncident env s.eventId) w s w := by
  apply reaches_bind (reaches_query hq _ w)
  intro _
  simp only [hread.event, hread.linked]
  apply reaches_bind (reaches_query hq _ _)
  intro _
  simp only [hread.incident]
  exact reaches_pure _ _

private theorem reaches_persistDecision (hq : Quiet env) (s : Subject) (proposalId : Nat)
    (input : PolicyInput) (decision : PolicyResult) (w : World) :
    ∃ policyDecisions f, (∀ row, eventColumns (f row) = eventColumns row) ∧
      Reaches (persistDecision env s proposalId input decision) w () { w with db := { w.db with
        policyDecisions
        securityEvents := w.db.securityEvents.update s.eventId f } } := by
  obtain ⟨n, hflush⟩ := reaches_flush hq { w with db := { w.db with
    policyDecisions := w.db.policyDecisions.insert
      { incidentId := s.incidentId
        proposalId
        allowed := decision.allowed
        requiresApproval := decision.requiresApproval
        reason := decision.reason
        input }
    securityEvents := w.db.securityEvents.update s.eventId fun event ↦
      { event with
        riskScore := some input.riskScore
        policyDecision := some (if decision.allowed then "ALLOW" else "DENY") } } }
  refine ⟨_, _, ?_, n, hflush⟩
  intro row
  rfl

/-- The authorisation of a removal returns what the removal works with. -/
private theorem Answering.returns_authoriseRemoval (h : Answering env) {s : Subject}
    (recordId : Nat) (record : QuarantineRecord) (hns : validName s.event.ns)
    (hname : validName s.event.pod)
    (hpod : w.cluster.pod? s.event.ns s.event.pod = some pod) (actor : String) :
    Returns (authoriseRemoval env s recordId record actor) w fun c w' ↦
      (∃ proposalId, c = ⟨s, recordId, proposalId, record.policyName⟩) ∧
        w'.cluster = w.cluster ∧ w'.db.incidents = w.db.incidents ∧
        skeleton w'.db = skeleton w.db := by
  apply returns_bind (h.reaches_getPodHealth hns hname hpod)
  intro _
  apply returns_bind (reaches_evaluate env _ _)
  intro _
  apply returns_bind (reaches_insertProposal _ _)
  intro _
  apply returns_bind (reaches_flush h.quiet _)
  intro _
  obtain ⟨policyDecisions, f, hf, hpersist⟩ := reaches_persistDecision h.quiet s _ _ _ _
  apply returns_bind hpersist
  intro _
  rw [if_pos (h.allows _ _)]
  apply (reaches_pure _ _).returns
  intro _
  exact ⟨⟨_, rfl⟩, rfl, rfl, oblivious_skeleton.event _ _ hf⟩

/-- A removal of a record that is not removed is authorised. -/
theorem Answering.returns_openRemoval (h : Answering env) {s : Subject} {recordId : Nat}
    {record : QuarantineRecord} (hread : s.ReadFrom s.eventId w.db)
    (hrecord : latestRecord w.db s.eventId = some (recordId, record))
    (hactive : record.status ≠ .removed) (hns : validName s.event.ns)
    (hname : validName s.event.pod)
    (hpod : w.cluster.pod? s.event.ns s.event.pod = some pod) (actor : String) :
    Returns (openRemoval env s.eventId actor) w fun r w' ↦
      (∃ proposalId, r = .inr ⟨s, recordId, proposalId, record.policyName⟩) ∧
        w'.cluster = w.cluster ∧ w'.db.incidents = w.db.incidents ∧
        skeleton w'.db = skeleton w.db := by
  apply returns_bind (reaches_eventAndIncident h.quiet hread)
  intro _
  apply returns_bind (reaches_query h.quiet _ _)
  intro _
  simp only [hrecord, if_neg hactive]
  apply (h.returns_authoriseRemoval recordId record hns hname (by exact hpod) actor).bind
  rintro c w' ⟨⟨proposalId, rfl⟩, hcluster, hincidents, hskeleton⟩
  exact (reaches_pure _ _).returns fun _ ↦ ⟨⟨proposalId, rfl⟩, hcluster, hincidents, hskeleton⟩

/-- **A quarantine is removed** where an attempt is left and the target can be reached. -/
theorem Answering.returns_removeQuarantine (h : Answering env) {s : Subject} {recordId : Nat}
    {record : QuarantineRecord} (hread : s.ReadFrom s.eventId w.db)
    (hrecord : latestRecord w.db s.eventId = some (recordId, record))
    (hactive : record.status ≠ .removed) (hsourced : (skeleton w.db).Sourced)
    (hleft : highestAttempt w.db s.incidentId < 3)
    (hnames : Accepted settings s.event.ns s.event.pod record.policyName
      (quarantineIdOf s.event))
    (hpod : w.cluster.pod? s.event.ns s.event.pod = some pod) (hdemo : isDemoTarget pod.labels)
    (hpolicy : ∃ policy, w.cluster.policy? s.event.ns record.policyName = some policy ∧
      policy.matchLabels = quarantineSelector (quarantineIdOf s.event)) (actor : String) :
    Returns (removeQuarantine env settings s.eventId actor) w fun _ w' ↦
      w'.cluster = released w.cluster s.event.ns s.event.pod record.policyName := by
  apply (h.returns_openRemoval hread hrecord hactive hnames.ns_valid hnames.pod_valid hpod
    actor).bind
  rintro r w₁ ⟨⟨proposalId, rfl⟩, hcluster, hincidents, hskeleton⟩
  have hhighest := highestAttempt_congr (congrArg Skeleton.executions hskeleton) s.incidentId
  apply (returns_beginRemoval h.quiet (by rw [hskeleton]; exact hsourced)
    (by exact hhighest.trans_lt hleft)).bind
  rintro executionId w₂ ⟨hcluster', hincidents'⟩
  have hsame : w₂.cluster = w.cluster := hcluster'.trans hcluster
  have hincident : w₂.db.incidents[s.incidentId]? = some s.incident := by
    rw [hincidents', hincidents]
    exact hread.incident
  obtain ⟨a, w₃, hrun, hreleased⟩ := h.returns_release (w := w₂)
    (c := ⟨s, recordId, proposalId, record.policyName⟩) hnames
    (by rw [hsame]; exact hpod) hdemo (by rw [hsame]; exact hpolicy) hincident executionId actor
  use a, w₃
  constructor
  · rw [Exec.run_tryCatch, hrun]
  · exact hreleased.trans (by rw [hsame])

end Progress

end CloudWard.Security
