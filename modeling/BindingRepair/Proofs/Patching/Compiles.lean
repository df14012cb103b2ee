import BindingRepair.Proofs.Patching.Pass

namespace BindingRepair

def Event.compile? : Event → Option (String × Except CompilerFailure CompileResult)
  | compiled text answer _ => some (text, answer)
  | _ => none

def compiles (events : List Event) : List (String × Except CompilerFailure CompileResult) :=
  events.filterMap Event.compile?

@[simp] theorem compiles_append (events later : List Event) :
    compiles (events ++ later) = compiles events ++ compiles later :=
  List.filterMap_append

@[simp] theorem compiles_nil : compiles [] = [] := rfl

@[simp] theorem compiles_cons (e : Event) (later : List Event) :
    compiles (e :: later) = e.compile?.toList ++ compiles later := by
  rw [compiles, List.filterMap_cons]
  cases e.compile? <;> rfl

attribute [simp] Event.compile?

namespace Patching

variable {setup : Setup} {s : State}

theorem StandardMends.compiles {pass : Nat} {ctx : PassContext} {errors : List Diagnostic}
    {after : State} {result : Except Refusal Unit}
    (mends : StandardMends pass ctx errors s result after) :
    compiles after.trace = compiles s.trace := by
  induction mends with
  | done => rfl
  | outside => rfl
  | @refused ctx d rest s index line =>
      rcases noteConsulted_cases line with same | ⟨_, noted⟩
      · rw [same]
      · rw [noted]
        simp
  | alreadyPatched _ _ _ _ _ induction => simpa using induction
  | tolerated _ _ _ _ _ _ induction => simpa using induction
  | edited _ _ _ _ _ induction => simpa using induction
  | defined => simp

theorem Mended.compiles {result : CompileResult} {ended : Except Refusal Unit} {after : State}
    (mended : Mended setup s result ended after) (standard : setup.registry = .standard) :
    compiles after.trace = compiles s.trace ++ [(s.buffer.text, .ok result)] := by
  have mends := (standard ▸ mended.mends).standard
  rw [mends.compiles, State.trace_note, State.trace_recompiled mended.answer]
  simp

theorem Passes.compiles {ending : PassEnd} (passes : Passes setup s ending)
    (standard : setup.registry = .standard) :
    compiles ending.state.trace =
      compiles s.trace ++ [(s.buffer.text, setup.compiler.answer s.earlier s.buffer.text)] := by
  cases passes with
  | failed answer =>
      rw [answer, PassEnd.state, State.trace_recompiled answer]
      simp
  | clean answer faultless =>
      rw [answer, PassEnd.state, State.trace_note, State.trace_recompiled answer]
      simp
  | refused mended =>
      rw [mended.answer]
      exact mended.compiles standard
  | stuck mended unchanged =>
      rw [mended.answer]
      exact mended.compiles standard
  | again mended changed =>
      rw [mended.answer]
      exact mended.compiles standard

/-- The buffers that a run gives to the compiler, in order. -/
def compiledBuffers (setup : Setup) : Nat → State → List SourceBuffer
  | 0, _ => []
  | passes + 1, s =>
    s.buffer ::
      match onePass setup s with
      | .again next => compiledBuffers setup passes next
      | .ended _ _ => []

theorem compiles_run (standard : setup.registry = .standard) (passes : Nat) (s : State) :
    (compiles (run setup passes s).state.trace).map (·.1) =
      (compiles s.trace).map (·.1) ++ (compiledBuffers setup passes s).map (·.text) := by
  induction passes generalizing s with
  | zero => simp [run, compiledBuffers]
  | succ passes induction =>
      have compiled := (passes_onePass setup s).compiles standard
      rw [run, compiledBuffers]
      cases ending : onePass setup s with
      | again next =>
          rw [ending] at compiled
          simp only [induction, PassEnd.state] at compiled ⊢
          simp [compiled]
      | ended result after =>
          rw [ending] at compiled
          simp only [PassEnd.state] at compiled ⊢
          simp [compiled]

theorem forall_mem_compiledBuffers {property : SourceBuffer → Prop}
    (preserved : ∀ s, property s.buffer → property (onePass setup s).state.buffer)
    (passes : Nat) (initial : property s.buffer) :
    ∀ b ∈ compiledBuffers setup passes s, property b := by
  induction passes generalizing s with
  | zero => exact nofun
  | succ passes induction =>
      intro b member
      rw [compiledBuffers] at member
      rcases List.mem_cons.mp member with rfl | later
      · exact initial
      · have next := preserved s initial
        cases ending : onePass setup s with
        | ended result after => simp [ending] at later
        | again after =>
            rw [ending] at next
            simp only [ending] at later
            exact induction next b later

end Patching

end BindingRepair
