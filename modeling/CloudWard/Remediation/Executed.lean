import CloudWard.Remediation.Filing

/-!
# Which libraries have the evaluated action executed

The pipeline files and executes a pod deletion for whatever runbook it matched
(`remediation/pipeline.py:380` to `398`). So every run executes what was evaluated exactly
where the matched runbook's executable action is that deletion; the processor's runs
always do.
-/

namespace CloudWard.Remediation.Pipeline

open CloudWard.Db CloudWard.Incidents CloudWard.Kubernetes CloudWard.Logic CloudWard.Policies
  CloudWard.Risk CloudWard.Runbooks CloudWard.Verification Service

/-- The runs of both paths, over a library and in an environment, execute what was evaluated. -/
def AllDispatched (runbooks : RunbookLoader) (environment : Environment) : Prop :=
  (∀ env settings incidentId alert db,
    Dispatched db
      ((Reliability.process env settings runbooks incidentId alert).run (start db)).2) ∧
  ∀ env settings (target : UnhealthyPodTarget) correlationId actor db,
    target.environment = environment →
    Dispatched db ((run env settings runbooks target correlationId actor).run (start db)).2

/-- Where the chosen runbook names the deletion, a run executes what was evaluated. -/
theorem run_dispatched (env : Env) (settings : Settings) {runbooks : RunbookLoader}
    {target : UnhealthyPodTarget} (correlationId actor : String) (db : Database)
    (hnames : ∀ r, Chosen runbooks target.environment r → r.action = .deleteUnhealthyPod) :
    Dispatched db ((run env settings runbooks target correlationId actor).run (start db)).2 := by
  have hfiled := filed_run env settings runbooks target correlationId actor db
  have htraced {e : Event} (he : e ∈
      ((run env settings runbooks target correlationId actor).run (start db)).2.trace) :
      Traced runbooks target.environment e := by
    rcases (traced_run env settings runbooks target correlationId actor).of_mem he with he | he
    · cases he
    · exact he
  have haction {input : PolicyInput} {policy : PolicyResult} (he : .evaluated input policy ∈
      ((run env settings runbooks target correlationId actor).run (start db)).2.trace) :
      input.action = .deleteUnhealthyPod := by
    obtain ⟨r, hr, heq⟩ := htraced he
    rw [heq, hnames r hr]
  have hmutation {m : Mutation} (hm : .mutated m ∈
      ((run env settings runbooks target correlationId actor).run (start db)).2.trace) :
      actionOf m = some .deleteUnhealthyPod := by
    obtain ⟨ns, name, rfl⟩ := htraced hm
    rfl
  constructor
  · intro m hm
    obtain ⟨input, policy, he, hallowed⟩ := hfiled.mutated m hm
    refine ⟨input, policy, he, hallowed, ?_⟩
    rw [hmutation hm, haction he]
  · intro input policy m he hm
    rw [hmutation hm, haction he]
  · intro e he
    obtain ⟨new, new', heq, hnew, -⟩ := hfiled.session
    obtain ⟨hdelete, input, policy, hmem, hallowed⟩ :=
      hnew _ (mem_added (congrArg Prod.fst heq) he)
    refine ⟨input, policy, hmem, hallowed, ?_⟩
    rw [hdelete, haction hmem]
  · intro q hq input policy he
    obtain ⟨new, new', heq, -, hnew'⟩ := hfiled.session
    obtain ⟨r, hmatch, hq'⟩ := hnew' _ (mem_added (congrArg Prod.snd heq) hq)
    obtain ⟨r', hr', heq'⟩ := htraced he
    have hsame : r = r' := Except.ok.inj (hmatch.symm.trans hr'.1)
    rw [hq', heq', hsame]

/-! ### A deletion for any runbook -/

/-- A cluster with one unready demo pod, under a policy that allows everything. -/
def unready : Env := { calm with
  listPods := fun _ _ _ ↦ .ok [makePod "demo-a" false]
  readPod := fun _ _ name ↦ .ok (makePod name false) }

private theorem quiet_unready : Quiet unready := ⟨fun _ ↦ rfl, fun _ ↦ rfl⟩

/-- The default target in an environment. -/
def demo (environment : Environment) : UnhealthyPodTarget := { environment := environment }

private def demoEvidence : KubernetesEvidence where
  deployment := ⟨"cloudward-staging", "cloudward-demo", 2, 1, []⟩
  pods := [makePod "demo-a" false]

/-- The run's incident after it entered these states. -/
private def visiting (environment : Environment) (path : List IncidentState) : Incident :=
  path.foldl (fun incident state ↦ entered state "cloudward" incident)
    (asCreated "cloudward" (incidentRow (demo environment) "c1"))

/-- The rows of a run that only moved its incident. -/
private def incidentRows (environment : Environment) (path : List IncidentState) : Database where
  incidents := [visiting environment path]

/-- The states of a run that chose its runbook. -/
private def chosen : List IncidentState := [.collectingEvidence, .classifying, .actionProposed]

/-- The states of a run that made its proposal. -/
private def proposed : List IncidentState :=
  [.collectingEvidence, .classifying, .actionProposed, .policyEvaluation]

variable {settings : Settings} {environment : Environment}

private theorem gives_change {d : Database} {id : Nat} {s t : IncidentState}
    (hstate : d.incidents[id]?.map (·.state) = some s) (hallowed : t ∈ allowedTransitions s)
    (hne : s ≠ t) (hwait : t ≠ .awaitingApproval) (hend : t.isTerminal = false) :
    Gives d (changeIncidentState unready settings id t "cloudward" {}) ()
      { d with incidents := d.incidents.update id (entered t "cloudward") } := by
  apply gives_of_reaches (g := fun w ↦ { w with db := { w.db with
    incidents := w.db.incidents.update id (entered t "cloudward") } })
  · rintro w rfl
    exact reaches_changeIncidentState quiet_unready settings _ _ hstate hallowed hne hwait hend
  · rintro w rfl
    rfl

private theorem gives_insertRunbookExecution {d : Database} (row : RunbookExecution) :
    Gives d (insertRunbookExecution row) d.runbookExecutions.fresh
      { d with runbookExecutions := d.runbookExecutions.insert row } := by
  apply gives_bind (gives_read fun db ↦ db.runbookExecutions.fresh)
  apply gives_bind (gives_write _)
  exact gives_pure _

private theorem gives_insertProposal {d : Database} (row : ActionProposal) :
    Gives d (insertProposal row) d.proposals.fresh
      { d with proposals := d.proposals.insert row } := by
  apply gives_bind (gives_read fun db ↦ db.proposals.fresh)
  apply gives_bind (gives_write _)
  exact gives_pure _

private theorem gives_countActive {d : Database} (environment : Environment) (n : Int) :
    Gives d (countActive environment n) () d := by
  apply gives_of_reaches fun w _ ↦ reaches_countActive environment n w
  exact fun _ hw ↦ hw

private theorem gives_gather :
    Gives (incidentRows environment [])
      (gather unready settings 0 (demo environment) "cloudward") demoEvidence
      (incidentRows environment [.collectingEvidence]) := by
  have hns : validName "cloudward-staging" := by decide
  have hname : validName "cloudward-demo" := by decide
  have hselector : safeSelector "app.kubernetes.io/name=cloudward-demo" := by decide
  have hpath : normalizedPath "health/ready" = some "health/ready" := by decide
  apply gives_bind (gives_change (s := .detected) rfl (by decide) (by decide) (by decide) rfl)
  apply gives_bind
  · apply gives_bind
    · apply gives_of_reaches_self
      intro w
      exact reaches_getDeployment hns hname fun _ ↦ rfl
    apply gives_bind
    · apply gives_of_reaches_self
      intro w
      exact reaches_getPods hns hselector fun _ ↦ rfl
    apply gives_bind (gives_record _)
    exact gives_pure _
  apply gives_bind
  · apply gives_of_reaches_self
    intro w
    exact reaches_getServiceHealth hns hname hpath fun _ ↦ rfl
  apply gives_bind (gives_flush quiet_unready)
  apply gives_bind (gives_commit quiet_unready)
  exact gives_pure _

/-- The rows once a runbook is chosen. -/
private def chosenRows (environment : Environment) (runbook : RunbookDocument)
    (path : List IncidentState) : Database where
  incidents := [{ visiting environment path with
    runbookId := some runbook.id
    runbookVersion := some runbook.version }]
  runbookExecutions := [{
    incidentId := 0
    runbookId := runbook.id
    runbookVersion := runbook.version
    status := .running }]

private theorem gives_choose {runbooks : RunbookLoader} {r : RunbookDocument}
    (hr : Chosen runbooks environment r) :
    Gives (incidentRows environment [.collectingEvidence])
      (choose unready settings runbooks 0 (demo environment) "cloudward" demoEvidence)
      (makePod "demo-a" false, r, 0) (chosenRows environment r chosen) := by
  apply gives_bind
  · apply gives_of_reaches_self
    intro w
    exact reaches_ofExcept (a := makePod "demo-a" false) rfl
  apply gives_bind (gives_change (s := .collectingEvidence) rfl (by decide) (by decide)
    (by decide) rfl)
  apply gives_bind
  · apply gives_of_reaches_self
    intro w
    exact reaches_ofExcept hr.1
  apply gives_bind
  · apply gives_bind
    · apply gives_of_reaches_self
      intro w
      exact reaches_require r.preconditions.maxTargetPods_mem.1
    apply gives_of_reaches_self
    intro w
    exact reaches_require fun _ ↦ rfl
  apply gives_bind (gives_write _)
  apply gives_bind (gives_insertRunbookExecution _)
  apply gives_bind (gives_flush quiet_unready)
  apply gives_bind (gives_change (s := .classifying) rfl (by decide) (by decide)
    (by decide) rfl)
  exact gives_pure _

/-- What the stages know of the proposal for a chosen runbook. -/
private def proposalOf (environment : Environment) (r : RunbookDocument) : Proposal where
  incidentId := 0
  target := demo environment
  pod := makePod "demo-a" false
  runbook := r
  runbookExecutionId := 0
  risk := riskOf environment r.action (getActionMetadata r.action)
  proposalId := 0

/-- The rows once the proposal is made. -/
private def proposedRows (environment : Environment) (r : RunbookDocument)
    (path : List IncidentState) : Database where
  incidents := [{ visiting environment path with
    runbookId := some r.id
    runbookVersion := some r.version
    riskScore := some (proposalOf environment r).risk.score }]
  runbookExecutions := [{
    incidentId := 0
    runbookId := r.id
    runbookVersion := r.version
    status := .running }]
  proposals := [{
    incidentId := 0
    actionType := r.action
    parameters := proposalParameters (demo environment) (makePod "demo-a" false)
    riskScore := (proposalOf environment r).risk.score
    riskCalculation := riskDump (proposalOf environment r).risk
    riskScore_le := (proposalOf environment r).risk.score_le }]

private theorem gives_propose {runbooks : RunbookLoader} {r : RunbookDocument}
    (hr : Chosen runbooks environment r) :
    Gives (chosenRows environment r chosen)
      (propose unready settings 0 (demo environment) "cloudward" (makePod "demo-a" false) r 0)
      (proposalOf environment r) (proposedRows environment r proposed) := by
  obtain ⟨metadata, hmetadata⟩ := hr.2
  obtain ⟨-, -, rfl⟩ := requireExecutableAction_eq_ok.mp hmetadata
  apply gives_bind
  · apply gives_of_reaches_self
    intro w
    exact reaches_ofExcept hmetadata
  apply gives_bind (gives_write _)
  apply gives_bind (gives_insertProposal _)
  apply gives_bind (gives_flush quiet_unready)
  apply gives_bind (gives_flush quiet_unready)
  apply gives_bind (gives_flush quiet_unready)
  apply gives_bind (gives_change (s := .actionProposed) rfl (by decide) (by decide)
    (by decide) rfl)
  exact gives_pure _

/-- The decision of the calm policy. -/
private def allowing (environment : Environment) (r : RunbookDocument) : PolicyResult :=
  calm.opa (start {}) (policyInput (demo environment) (makePod "demo-a" false) r.action
    (proposalOf environment r).risk)

/-- The rows once the proposal is evaluated. -/
private def evaluatedRows (environment : Environment) (r : RunbookDocument)
    (path : List IncidentState) : Database :=
  { proposedRows environment r path with
    policyDecisions := [{
      incidentId := 0
      proposalId := 0
      allowed := true
      requiresApproval := false
      reason := "allowed"
      input := policyInput (demo environment) (makePod "demo-a" false) r.action
        (proposalOf environment r).risk }] }

private theorem gives_authorise (r : RunbookDocument) :
    Gives (proposedRows environment r proposed)
      (authorise unready (proposalOf environment r) (makePod "demo-a" false)) (allowing environment r)
      (evaluatedRows environment r proposed) := by
  apply gives_bind
  · apply gives_of_reaches (fun w _ ↦ reaches_evaluate _ _ w)
    exact fun _ hw ↦ hw
  apply gives_bind (gives_write _)
  exact gives_pure _

/-- The event of the run's deletion. -/
def deletion : Event := .mutated (.deletePod "cloudward-staging" "demo-a")

private theorem leaves_act (r : RunbookDocument) (executionId : Nat) {w : World} :
    Leaves deletion
      (act unready {} (proposalOf environment r) executionId (some (makePod "demo-a" false))) w := by
  have hns : validName "cloudward-staging" := by decide
  have hname : validName "demo-a" := by decide
  have hmem : "cloudward-staging" ∈ ({} : Settings).allowedNamespaces := by decide
  apply leaves_bind_left (p := fun _ ↦ False)
  · have hdelete : Reaches (deletePod unready {} "cloudward-staging" "demo-a") w () _ :=
      reaches_deletePod (p := makePod "demo-a" false) hns hname hmem (fun _ ↦ rfl) (by decide)
        (by decide) (by decide) fun _ ↦ rfl
    obtain ⟨n, hn⟩ := hdelete
    unfold Leaves
    rw [show (proposalOf environment r).target.ns = "cloudward-staging" from rfl,
      show (makePod "demo-a" false).name = "demo-a" from rfl, hn]
    exact List.mem_cons_self
  · intro _
    apply Exec.Frames.emits
    exact Exec.frames_bind (frames_write _ fun _ _ ↦ rfl) fun _ ↦ frames_flush _ fun _ _ ↦ rfl

private theorem leaves_attemptOnce (r : RunbookDocument) (attempt : Nat)
    (h : 1 ≤ attempt ∧ attempt ≤ 3) {w : World} (hw : w.db.executions = []) :
    Leaves deletion (attemptOnce unready {} "cloudward" (proposalOf environment r) attempt h
      (some (makePod "demo-a" false))) w := by
  have hinsert {d : Database} (hd : d.executions = []) : Gives d
      (insertExecution unready (attemptRow (proposalOf environment r) attempt h)) 0
      { d with executions := [attemptRow (proposalOf environment r) attempt h] } := by
    intro w hw
    subst hw
    have hfresh : w.db.executions.fresh = 0 := by
      rw [hd]
      rfl
    have hunique : executionIsUnique w.db.executions
        (attemptRow (proposalOf environment r) attempt h) := by
      rw [hd]
      intro e he
      cases he
    obtain ⟨n, hn⟩ := reaches_insertExecution (w := w) quiet_unready hunique
    rw [hfresh, hd] at hn
    exact ⟨_, hn, rfl⟩
  apply leaves_bind (gives_write _) rfl
  intro w' hw'
  refine leaves_bind (hinsert ?_) hw' ?_
  · exact hw
  · intro w' _
    apply leaves_bind_left (leaves_act r 0)
    intro _
    apply Exec.emits_bind (frames_trace_changeIncidentState _ _ _ _ _ _).emits
    intro _
    apply Exec.emits_bind ((emits_commit _).mono fun _ _ ↦ trivial)
    intro _
    apply Exec.emits_bind (frames_verifyUntil (fun _ _ ↦ rfl) _ _).emits
    intro verification
    apply Exec.emits_bind (p := fun _ ↦ True)
    · intro w
      exact ⟨[.verified verification.success], rfl, fun _ _ ↦ trivial⟩
    intro _
    apply Exec.emits_bind (frames_flush _ fun _ _ ↦ rfl).emits
    intro _
    exact (Exec.frames_pure _).emits

private theorem leaves_execute {runbooks : RunbookLoader} {r : RunbookDocument}
    (hr : Chosen runbooks environment r) (policy : PolicyResult) {w : World}
    (hw : w.db = evaluatedRows environment r proposed) :
    Leaves deletion (execute unready {} "cloudward" (proposalOf environment r) policy) w := by
  apply leaves_bind (gives_write _) hw
  intro w hw
  apply leaves_bind (gives_change (s := .policyEvaluation) rfl (by decide) (by decide)
    (by decide) rfl) hw
  intro w hw
  apply leaves_bind (gives_commit quiet_unready) hw
  intro w hw
  apply leaves_bind_left (p := Traced runbooks environment)
  · apply leaves_attemptOnce r
    rw [hw]
    rfl
  · intro verification
    apply Exec.emits_ite
    · exact fun _ ↦ traced_end
    · intro _
      apply Exec.emits_bind (traced_reconsider hr)
      intro next
      exact traced_attempts hr policy _ _ next

/-- Whatever the chosen runbook names, some run deletes a pod. -/
theorem run_deletes {runbooks : RunbookLoader} {r : RunbookDocument}
    (hr : Chosen runbooks environment r) :
    deletion ∈ ((run unready {} runbooks (demo environment) "c1").run (start {})).2.trace := by
  have hcreate : Gives {} (createIncident unready (incidentRow (demo environment) "c1") "cloudward") 0
      (incidentRows environment []) := by
    apply gives_bind (gives_read fun db ↦ db.incidents.fresh)
    apply gives_bind (gives_write _)
    apply gives_bind (gives_countActive _ _)
    apply gives_bind (gives_flush quiet_unready)
    apply gives_bind (gives_flush quiet_unready)
    apply gives_bind (gives_flush quiet_unready)
    apply gives_bind (gives_flush quiet_unready)
    exact gives_pure _
  apply leaves_bind hcreate rfl
  intro w hw
  apply leaves_bind (gives_commit quiet_unready) hw
  intro w hw
  apply leaves_tryCatch (p := Traced runbooks environment) _ fun e ↦ traced_escalate 0 e
  apply leaves_bind gives_gather hw
  intro w hw
  apply leaves_bind (gives_choose hr) hw
  intro w hw
  apply leaves_bind (gives_propose hr) hw
  intro w hw
  apply leaves_bind (gives_authorise r) hw
  intro w hw
  apply leaves_bind (gives_flush quiet_unready) hw
  intro w hw
  exact leaves_execute hr (allowing environment r) hw

/-- The runs over a library and in an environment execute what was evaluated exactly where
the chosen runbook names the pipeline's deletion. -/
theorem dispatched_iff (runbooks : RunbookLoader) (environment : Environment) :
    AllDispatched runbooks environment ↔
      ∀ r, Chosen runbooks environment r → r.action = .deleteUnhealthyPod := by
  constructor
  · intro hall r hr
    have hrun := hall.2 unready {} (demo environment) "c1" "cloudward" {} rfl
    have hdeletes := run_deletes hr
    obtain ⟨input, policy, he, -, haction⟩ := hrun.mutations _ hdeletes
    rcases (traced_run unready {} runbooks (demo environment) "c1" "cloudward").of_mem he
      with he | ⟨r', hr', heq⟩
    · cases he
    have hsame : r = r' := Except.ok.inj (hr.1.symm.trans hr'.1)
    rw [hsame, ← heq]
    exact (Option.some.inj haction).symm
  · intro hnames
    constructor
    · intro env settings incidentId alert db
      exact Reliability.process_dispatched env settings runbooks incidentId alert db
    · rintro env settings target correlationId actor db rfl
      exact run_dispatched env settings correlationId actor db hnames

/-- `unhealthyPod`, but it scales the deployment. -/
def scaling : RunbookDocument :=
  { unhealthyPod with
    action := .scaleStagingDeployment
    supported := by decide
    rollback_capable := by decide }

/-- A library with that runbook. -/
def scalingLibrary : RunbookLoader := ⟨[scaling], List.pairwise_singleton _ _⟩

/-- Over that library a run deletes a pod, although only scaling was evaluated. -/
theorem run_deletes_unevaluated :
    deletion ∈ ((run unready {} scalingLibrary (demo .staging) "c1").run (start {})).2.trace ∧
      (∀ input policy, .evaluated input policy ∈
          ((run unready {} scalingLibrary (demo .staging) "c1").run (start {})).2.trace →
        input.action = .scaleStagingDeployment) ∧
      ¬ AllDispatched scalingLibrary .staging := by
  have hchosen : Chosen scalingLibrary .staging scaling :=
    ⟨rfl, _, requireExecutableAction_eq_ok.mpr ⟨by decide, by decide, rfl⟩⟩
  have hdeletes : deletion ∈ ((run unready {} scalingLibrary (demo .staging) "c1").run (start {})).2.trace :=
    run_deletes hchosen
  have hevaluated : ∀ input policy, .evaluated input policy ∈
      ((run unready {} scalingLibrary (demo .staging) "c1").run (start {})).2.trace →
      input.action = .scaleStagingDeployment := by
    intro input policy he
    rcases (traced_run unready {} scalingLibrary (demo .staging) "c1" "cloudward").of_mem he
      with he | ⟨r, hr, heq⟩
    · cases he
    have hsame : scaling = r := Except.ok.inj (hchosen.1.symm.trans hr.1)
    rw [heq, ← hsame]
    rfl
  refine ⟨hdeletes, hevaluated, ?_⟩
  intro hall
  have hrun := hall.2 unready {} (demo .staging) "c1" "cloudward" {} rfl
  obtain ⟨input, policy, he, -, haction⟩ := hrun.mutations _ hdeletes
  rw [hevaluated input policy he] at haction
  cases haction

end CloudWard.Remediation.Pipeline
