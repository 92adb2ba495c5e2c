import PolicyReconciler.Proofs.Program.Script
import PolicyReconciler.Proofs.Reconcile.Course

namespace PolicyReconciler

/-!
# Steady reconciles

All that reconciles share besides their services is the clock, the state of the
limiter and the ambient context.  None of it tells what a reconcile calls or how it
ends: each operation is steady, so a whole reconcile is.
-/

open Program

variable {Time Result : Type} [TimeScale Time]

/-- A limited request is steady. -/
theorem Limiter.limited_steady
    (rate : Time)
    (api : Api)
    (request : Call) :
    (limited rate api (Program.call request)).Steady :=
  (Steady.of_quietly (awaitTurn_quietly rate api)).bind fun _ => .call request

namespace VpcLattice

variable (operator : Operator Time)

/-- Measuring a request keeps it steady. -/
theorem measured_steady
    {request : Program Time Result}
    (operation : Operation)
    (inner : request.Steady) :
    (measured operation request).Steady := by
  apply Steady.clocked
  · apply inner.followedBy
    intro outcome
    cases outcome with
    | ok result =>
        exact .of_quietly ((Quietly.count _).bind (.finish result))
    | error fault =>
        dsimp only
        split
        · apply (Steady.of_quietly (.count _)).bind
          intro _
          split
          · exact .of_quietly ((Quietly.count _).bind (.fail fault))
          · exact .of_quietly (.fail fault)
        · exact .of_quietly (.fail fault)
  · exact fun start => Quietly.readClock_bind fun stop => Quietly.observe _ _

omit [TimeScale Time] in
/-- Reporting the faults of a request keeps it steady. -/
theorem reporting_steady
    {request : Program Time Result}
    (activity : String)
    (inner : request.Steady) :
    (reporting activity request).Steady := by
  apply inner.recover
  intro fault
  split
  · exact .of_quietly ((Quietly.log _ _ _).bind (.fail _))
  · exact .of_quietly (.fail _)

omit [TimeScale Time] in
/-- Counting the outcome of a program keeps it steady. -/
theorem counted_steady
    {program : Program Time Result}
    (operation : AuthOperation)
    (inner : program.Steady) :
    (counted operation program).Steady := by
  apply inner.followedBy
  intro outcome
  cases outcome with
  | ok result =>
      exact .of_quietly ((Quietly.count _).bind (.finish result))
  | error fault =>
      exact .of_quietly ((Quietly.count _).bind (.fail fault))

theorem invoke_steady
    (operation : Operation)
    (request : Call) :
    (invoke operator operation request).Steady :=
  measured_steady operation (Limiter.limited_steady _ _ request)

/-- A listing is steady, from whatever page it goes on. -/
theorem listFrom_steady
    (kind : ResourceKind)
    (pages : Nat)
    (token : Option Json) :
    (listFrom operator kind pages token).Steady := by
  induction pages generalizing token with
  | zero =>
      exact .of_quietly (.fail _)
  | succ pages inductionHypothesis =>
      apply (invoke_steady operator _ _).bind
      intro page
      apply (Steady.of_quietly (.ofExcept _)).bind
      intro items
      split
      · exact .of_quietly (.finish items)
      · exact (inductionHypothesis _).bind fun others => .of_quietly (.finish _)

theorem findId_steady (kind : ResourceKind) (name : Json) :
    (findId operator kind name).Steady := by
  apply (reporting_steady _ (listFrom_steady operator kind _ none)).bind
  intro items
  split
  · exact .of_quietly (.finish _)
  · exact .of_quietly (.fail _)
  · exact .of_quietly (.fail _)

/-- A lookup is steady. -/
theorem resolve_steady
    (kind : ResourceKind)
    (target : TargetRef)
    (recordNamespace : Json) :
    (resolve operator kind target recordNamespace).Steady := by
  cases kind with
  | serviceNetwork =>
      exact findId_steady operator _ _
  | service =>
      exact (Steady.of_quietly (.ofExcept _)).bind fun name =>
        findId_steady operator _ _

theorem changeAuthType_steady (identifier authType : Json) :
    (changeAuthType operator identifier authType).Steady := by
  apply (Steady.of_quietly (.ofExcept _)).bind
  intro kind
  apply reporting_steady
  exact (invoke_steady operator _ _).bind fun _ => .of_quietly (.finish ())

theorem enableAuth_steady (identifier : Json) :
    (enableAuth operator identifier).Steady :=
  (counted_steady _ (changeAuthType_steady operator identifier _)).bind fun _ =>
    .of_quietly (.log _ _ _)

theorem disableAuth_steady (identifier : Json) :
    (disableAuth operator identifier).Steady :=
  (counted_steady _ (changeAuthType_steady operator identifier _)).bind fun _ =>
    .of_quietly (.log _ _ _)

theorem putPolicy_steady (identifier document : Json) :
    (putPolicy operator identifier document).Steady := by
  apply (counted_steady _ (reporting_steady _ (invoke_steady operator _ _))).bind
  intro answer
  exact (Steady.of_quietly (.ofExcept _)).bind fun state => .of_quietly (.log _ _ _)

theorem deletePolicy_steady (identifier : Json) :
    (deletePolicy operator identifier).Steady := by
  apply counted_steady
  have removal : (deleteAuthPolicy operator identifier).Steady :=
    reporting_steady _ ((invoke_steady operator _ _).bind fun _ =>
      .of_quietly (.finish ()))
  apply removal.recover
  intro fault
  split
  · exact .of_quietly (.log _ _ _)
  · exact .of_quietly (.fail fault)

end VpcLattice

namespace PolicyStore

variable (operator : Operator Time)

/-- Timing a program keeps it steady. -/
theorem timed_steady
    {program : Program Time Result}
    (operation : Operation)
    (inner : program.Steady) :
    (timed operation program).Steady :=
  inner.clocked fun _ => Quietly.readClock_bind fun _ => Quietly.observe _ _

omit [TimeScale Time] in
theorem afterReadFault_steady (next : Option (Pause Time)) (fault : Fault) :
    (afterReadFault next fault).Steady := by
  cases fault with
  | api response =>
      unfold afterReadFault
      dsimp only
      split
      · exact .of_quietly ((Quietly.count _).bind (.finish _))
      · apply (Steady.of_quietly (.count _)).bind
        intro _
        split
        · have backsOff : (Backoff.backOff next).Steady := by
            apply (Steady.of_quietly (.count _)).bind
            intro _
            cases next with
            | none =>
                exact .of_quietly (.finish false)
            | some length =>
                exact .of_quietly ((Quietly.pause length).bind (.finish true))
          apply backsOff.bind
          intro again
          split
          · exact .of_quietly (.finish _)
          · exact .of_quietly (.fail _)
        · exact .of_quietly (.fail _)
  | _ =>
      exact .of_quietly (.fail _)

theorem attempt_steady (address : Address) (next : Option (Pause Time)) :
    (attempt operator address next).Steady := by
  apply timed_steady
  apply Steady.recover
  · apply (Limiter.limited_steady _ _ _).bind
    intro record
    apply (Steady.of_quietly (.count _)).bind
    intro _
    exact (Steady.of_quietly (.ofExcept _)).bind fun policy =>
      .of_quietly (.finish _)
  · exact afterReadFault_steady next

/-- A read is steady, however often it may be tried again. -/
theorem getWith_steady (address : Address) (pauses : List (Pause Time)) :
    (getWith operator address pauses).Steady := by
  induction pauses with
  | nil =>
      apply (attempt_steady operator address none).bind
      intro attempt
      cases attempt <;> exact .of_quietly (.finish _)
  | cons pause rest inductionHypothesis =>
      apply (attempt_steady operator address (some pause)).bind
      intro attempt
      cases attempt with
      | again =>
          exact inductionHypothesis
      | found | missing =>
          exact .of_quietly (.finish _)

omit [TimeScale Time] in
theorem afterWriteFault_steady (policy : Policy) (fault : Fault) :
    (afterWriteFault policy fault : Program Time Result).Steady := by
  cases fault with
  | api response =>
      unfold afterWriteFault
      dsimp only
      split <;> exact .of_quietly ((Quietly.count _).bind (.fail _))
  | _ =>
      exact .of_quietly (.fail _)

/-- A replacement is steady. -/
theorem update_steady (policy : Policy) :
    (update operator policy).Steady := by
  apply timed_steady
  apply Steady.recover
  · apply (Limiter.limited_steady _ _ _).bind
    exact fun stored => .of_quietly ((Quietly.count _).bind (.finish stored))
  · exact afterWriteFault_steady policy

end PolicyStore

namespace Reconcile

variable (operator : Operator Time)

theorem resolveTarget_steady (kind : ResourceKind) (policy : Policy) :
    (resolveTarget operator kind policy).Steady := by
  apply Steady.withSpan
  apply (VpcLattice.resolve_steady operator _ _ _).bind
  exact fun identifier =>
    .of_quietly ((Quietly.annotateSpan _ _).bind (.finish identifier))

/-- Both pipelines are steady. -/
theorem Pipeline.run_steady (pipeline : Pipeline) (policy : Policy) :
    (pipeline.run operator policy).Steady := by
  cases pipeline with
  | upsert kind =>
      apply (resolveTarget_steady operator kind policy).bind
      intro identifier
      apply (VpcLattice.enableAuth_steady operator identifier).bind
      intro _
      apply (VpcLattice.putPolicy_steady operator identifier _).bind
      exact fun _ => .of_quietly ((Quietly.emit _).bind (.finish identifier))
  | delete kind =>
      apply (resolveTarget_steady operator kind policy).bind
      intro identifier
      apply (VpcLattice.deletePolicy_steady operator identifier).bind
      intro _
      apply (VpcLattice.disableAuth_steady operator identifier).bind
      exact fun _ => .of_quietly ((Quietly.emit _).bind (.finish identifier))

/-- Writing a policy back is steady. -/
theorem persist_steady (policy : Policy) (identifier : Json) :
    (persist operator policy identifier).Steady := by
  apply (PolicyStore.update_steady operator _).bind
  intro answer
  refine .of_quietly
    ((noteOn_inform_quietly policy _ _ _ _ rfl ?_).bind (.finish settled))
  simp [HandlerNote.lineNames, LogEntry.reservedNames, LogEntry.fieldNames]

/-- The reconcile of a policy with a known target is steady. -/
theorem reconcileSupported_steady (kind : TargetKind) (policy : Policy) :
    (reconcileSupported operator kind policy).Steady := by
  apply (Steady.withSpan _ _ _ (Pipeline.run_steady operator _ policy)).followedBy
  intro outcome
  cases outcome with
  | ok identifier =>
      exact persist_steady operator policy identifier
  | error fault =>
      cases fault with
      | dependencyNotFound =>
          exact .of_quietly (deferMissingTarget_quietly policy _)
      | _ =>
          exact .of_quietly (.fail _)

/--
What a reconcile calls and how it ends depends on the answers to its calls alone.
-/
theorem reconcile_steady (address : Address) :
    (reconcile operator address).Steady := by
  apply (PolicyStore.getWith_steady operator address _).bind
  intro read
  cases read with
  | none =>
      exact .of_quietly (noteMissing_quietly address)
  | some policy =>
      have noted : ((noteOn policy "reconcile" "Reconcile" (some "reconcile")
          [("target_ref", policy.target.logged)]).inform (.str recordKind) :
            Program Time Unit).Quietly (.ok ()) := by
        refine noteOn_inform_quietly policy _ _ _ _ rfl ?_
        simp [HandlerNote.lineNames, LogEntry.reservedNames, LogEntry.fieldNames]
      apply (Steady.of_quietly noted).bind
      intro _
      split
      · exact .of_quietly (deferUnsupported_quietly _ policy.gate _)
      · exact reconcileSupported_steady operator _ policy.gate

end Reconcile

end PolicyReconciler
