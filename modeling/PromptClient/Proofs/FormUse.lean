import Mathlib.Data.List.Chain
import PromptClient.Form

/-! # A form in use

Whoever takes the lock of a form holds a guard, and the form stays locked until the guard is
dropped. Its view is given something from three sides: when the lock is taken, when it is given
back, and when the layout changes. Whatever the order in which these happen, the view shows the
form as it is, and is never given the same twice in a row. -/

namespace PromptClient

/-- Different forms look different. -/
theorem Form.snapshot_inj {first second : Form} :
    first.snapshot = second.snapshot ↔ first = second := by
  constructor
  · intro same
    have enabled : (!first.locked) = !second.locked := congrArg (·.controlsEnabled) same
    have layout : first.layout = second.layout := congrArg (·.layout) same
    rcases first with ⟨locked, shown⟩
    rcases second with ⟨other, hidden⟩
    rw [Form.mk.injEq]
    exact ⟨Bool.not_inj enabled, layout⟩
  · intro same
    rw [same]

inductive FormMove
  | lock
  | drop
  | setLayout (layout : CredentialLayout)

structure FormUse where
  form : Form
  /-- How many guards are held. -/
  guards : Nat
  /-- What the view has been given, in order. -/
  rendered : List FormSnapshot

namespace FormUse

def opened : FormUse := ⟨.initial, 0, []⟩

def move (use : FormUse) : FormMove → FormUse
  | .lock =>
      match use.form.lock? with
      | none => use
      | some form => ⟨form, use.guards + 1, use.rendered ++ [form.snapshot]⟩
  | .drop =>
      match use.guards with
      | 0 => use
      | guards + 1 =>
          ⟨use.form.unlock, guards, use.rendered ++ [use.form.unlock.snapshot]⟩
  | .setLayout layout =>
      ⟨use.form.withLayout layout, use.guards, use.rendered ++ use.form.shownFor layout⟩

def run (use : FormUse) (moves : List FormMove) : FormUse :=
  moves.foldl move use

theorem run_append (use : FormUse) (first second : List FormMove) :
    use.run (first ++ second) = (use.run first).run second :=
  List.foldl_append

/-- What becomes of a guard that may be dropped now. -/
theorem run_drop_if {use : FormUse} {guards : Nat} (held : use.guards = guards + 1) (drops : Bool) :
    use.run (if drops then [.drop] else []) =
      ⟨if drops then use.form.unlock else use.form, if drops then guards else guards + 1,
        use.rendered ++ if drops then [use.form.unlock.snapshot] else []⟩ := by
  cases drops with
  | false =>
      rcases use with ⟨form, count, rendered⟩
      simp only at held
      simp [run, held]
  | true => simp [run, move, held]

/-- The lock and the view are in order. -/
structure Sound (use : FormUse) : Prop where
  single : use.guards ≤ 1
  locked : use.form.locked = true ↔ use.guards = 1
  current : ∀ last ∈ use.rendered.getLast?, last = use.form.snapshot
  untouched : use.rendered = [] → use.form = .initial
  /-- The view is given something only when there is something else to be seen. -/
  changing : use.rendered.IsChain (· ≠ ·)

variable {use : FormUse}

theorem opened_sound : opened.Sound where
  single := by decide
  locked := by decide
  current := by
    intro last found
    cases found
  untouched := fun _ => rfl
  changing := List.isChain_nil

/-- Once the form has changed, its view is given the form as it is now. -/
theorem Sound.render (sound : use.Sound) {form : Form} {guards : Nat} (changed : use.form ≠ form)
    (single : guards ≤ 1) (locked : form.locked = true ↔ guards = 1) :
    Sound ⟨form, guards, use.rendered ++ [form.snapshot]⟩ where
  single := single
  locked := locked
  current := by
    intro last found
    rw [List.getLast?_concat] at found
    exact (Option.some.inj found).symm
  untouched := fun none => absurd none (List.concat_ne_nil _ _)
  changing := by
    apply sound.changing.append (List.isChain_singleton _)
    intro last before next given
    rw [sound.current last before, ← Option.some.inj given, ne_eq, Form.snapshot_inj]
    exact changed

theorem Sound.lock (sound : use.Sound) : (use.move .lock).Sound := by
  cases locked : use.form.locked with
  | true =>
      have refused : use.form.lock? = none := by simp [Form.lock?, locked]
      rw [move, refused]
      exact sound
  | false =>
      have taken : use.form.lock? = some { use.form with locked := true } := by
        simp [Form.lock?, locked]
      have free : use.guards = 0 := by
        have unheld : use.guards ≠ 1 := fun held => by
          rw [← sound.locked, locked] at held
          cases held
        have single := sound.single
        omega
      rw [move, taken, free]
      apply sound.render
      · intro same
        have taken := congrArg Form.locked same
        rw [locked] at taken
        cases taken
      · exact Nat.le_refl 1
      · simp

theorem Sound.drop (sound : use.Sound) : (use.move .drop).Sound := by
  cases held : use.guards with
  | zero =>
      rw [move, held]
      exact sound
  | succ guards =>
      have single := sound.single
      have locked : use.form.locked = true := by
        rw [sound.locked]
        omega
      rw [move, held]
      apply sound.render
      · intro same
        have given := congrArg Form.locked same
        rw [locked] at given
        cases given
      · omega
      · have gone : guards = 0 := by omega
        simp [Form.unlock, gone]

theorem Sound.setLayout (sound : use.Sound) (layout : CredentialLayout) :
    (use.move (.setLayout layout)).Sound := by
  by_cases same : use.form.layout = layout
  · have unchanged : use.move (.setLayout layout) = use := by
      simp [move, Form.withLayout, Form.shownFor, ← same]
    rw [unchanged]
    exact sound
  · have shown : use.form.shownFor layout = [(use.form.withLayout layout).snapshot] := by
      rw [Form.shownFor, if_neg same]
    rw [move, shown]
    apply sound.render
    · intro equal
      exact same (congrArg Form.layout equal)
    · exact sound.single
    · exact sound.locked

theorem Sound.move (sound : use.Sound) (move : FormMove) : (use.move move).Sound := by
  cases move with
  | lock => exact sound.lock
  | drop => exact sound.drop
  | setLayout layout => exact sound.setLayout layout

theorem Sound.run (sound : use.Sound) (moves : List FormMove) : (use.run moves).Sound := by
  induction moves generalizing use with
  | nil => exact sound
  | cons move rest induction => exact induction (sound.move move)

/-- Nobody gets a second guard, and the view is not told that somebody has tried. -/
theorem Sound.refuses (sound : use.Sound) (held : 0 < use.guards) :
    use.form.lock? = none ∧ use.move .lock = use := by
  have single := sound.single
  have locked : use.form.locked = true := by
    rw [sound.locked]
    omega
  have refused : use.form.lock? = none := by simp [Form.lock?, locked]
  refine ⟨refused, ?_⟩
  rw [FormUse.move, refused]

/-! ## Lock and layout -/

theorem move_setLayout_locked (use : FormUse) (layout : CredentialLayout) :
    (use.move (.setLayout layout)).form.locked = use.form.locked := rfl

theorem move_lock_layout (use : FormUse) :
    (use.move .lock).form.layout = use.form.layout := by
  unfold move Form.lock?
  cases use.form.locked <;> rfl

theorem move_drop_layout (use : FormUse) :
    (use.move .drop).form.layout = use.form.layout := by
  unfold move
  cases use.guards <;> rfl

end FormUse

end PromptClient
