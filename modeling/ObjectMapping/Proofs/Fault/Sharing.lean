/-
This file proves what context does where faults share causes. The text of a context always comes in front of that
of the fault, and no other fault changes; the kind of a context is kept where it has no cause inside it and there
is one reference to it, its own.
-/

import Mathlib.Data.List.Dedup
import Mathlib.Data.List.Infix
import ObjectMapping.Fault.Sharing

namespace ObjectMapping

namespace LiveFault

/-- A cause in front of a fault stands in front of its text. -/
theorem message_chained (outermost : SharedCause) (fault : LiveFault) :
    (LiveFault.mk outermost fault.causes).message = outermost.cause.message ++ ": " ++ fault.message := by
  simp only [message, plain, Fault.message, Fault.causes, causes, List.map_cons]
  exact String.intercalate_cons_cons

/-- A fault with one cause has its text. -/
theorem message_single {fault : LiveFault} (single : fault.inner = []) :
    fault.message = fault.outermost.cause.message := by
  simp only [message, plain, Fault.message, Fault.causes, single, List.map_nil, List.map_cons]
  exact String.intercalate_singleton

theorem isWithin_iff {fault other : LiveFault} :
    fault.isWithin other = true ↔ ∃ cause ∈ other.causes, cause.serial = fault.outermost.serial := by
  simp only [isWithin, List.any_eq_true, beq_iff_eq]

end LiveFault

namespace FaultStack

def run (steps : List FaultStep) : FaultStack := steps.foldl step empty

variable (stack : FaultStack)

/-- The causes that are alive, each at the head of those inside it. -/
def cells : List (List SharedCause) := (stack.faults.flatMap fun fault => fault.causes.tails).dedup

/-- How many references there are to a cause: faults on the stack that start with it, and causes that are alive
and have it directly inside. -/
def references (serial : Nat) : Nat :=
  (stack.faults.countP fun fault => fault.outermost.serial == serial) +
    stack.cells.countP fun cell => cell.tail.head?.any (·.serial == serial)

/-- What holds of all stacks that steps lead to. -/
structure IsSound : Prop where
  fresh : ∀ fault ∈ stack.faults, ∀ cause ∈ fault.causes, cause.serial < stack.next
  distinct : ∀ fault ∈ stack.faults, (fault.causes.map (·.serial)).Nodup
  /-- A serial is that of one cause, with the same causes inside it wherever it is met. -/
  single : ∀ cause inner other others, cause :: inner ∈ stack.cells → other :: others ∈ stack.cells →
    cause.serial = other.serial → cause :: inner = other :: others

variable {stack}

theorem mem_cells {cell : List SharedCause} :
    cell ∈ stack.cells ↔ ∃ fault ∈ stack.faults, cell <:+ fault.causes := by
  simp only [cells, List.mem_dedup, List.mem_flatMap, List.mem_tails]

/-- What is inside a fault is directly inside one of its causes. -/
theorem exists_around {cause : SharedCause} {inner : List SharedCause} (present : cause ∈ inner)
    (outermost : SharedCause) : ∃ around behind, around :: cause :: behind <:+ outermost :: inner := by
  induction inner generalizing outermost with
  | nil => cases present
  | cons next rest inductionHypothesis =>
      obtain rfl | inRest := List.mem_cons.mp present
      · exact ⟨outermost, rest, List.suffix_rfl⟩
      · obtain ⟨around, behind, suffix⟩ := inductionHypothesis inRest next
        exact ⟨around, behind, suffix.trans (List.suffix_cons _ _)⟩

theorem causes_mem_cells {fault : LiveFault} (live : fault ∈ stack.faults) : fault.causes ∈ stack.cells :=
  mem_cells.mpr ⟨fault, live, List.suffix_rfl⟩

theorem mem_cells_fresh (sound : stack.IsSound) {cause : SharedCause} {inner : List SharedCause}
    (alive : cause :: inner ∈ stack.cells) : cause.serial < stack.next := by
  obtain ⟨fault, live, suffix⟩ := mem_cells.mp alive
  exact sound.fresh fault live cause (suffix.subset List.mem_cons_self)

namespace IsSound

theorem empty : empty.IsSound := ⟨nofun, nofun, nofun⟩

variable (sound : stack.IsSound)

include sound

/-- Faults can go, or be there more than once. -/
theorem subset {faults : List LiveFault} (kept : faults ⊆ stack.faults) :
    (FaultStack.mk faults stack.next).IsSound := by
  have alive {cell : List SharedCause} (isCell : cell ∈ (FaultStack.mk faults stack.next).cells) :
      cell ∈ stack.cells := by
    obtain ⟨fault, live, suffix⟩ := mem_cells.mp isCell
    exact mem_cells.mpr ⟨fault, kept live, suffix⟩
  refine ⟨fun fault live => sound.fresh fault (kept live), fun fault live => sound.distinct fault (kept live), ?_⟩
  exact fun cause inner other others left right => sound.single cause inner other others (alive left) (alive right)

/-- A cause that nothing refers to can be put in front of what is alive. -/
theorem chain {outermost : SharedCause} {inner : List SharedCause} {others : List LiveFault} {next : Nat}
    (kept : others ⊆ stack.faults) (held : inner = [] ∨ inner ∈ stack.cells)
    (notInner : ∀ cause ∈ inner, cause.serial ≠ outermost.serial)
    (notOther : ∀ other ∈ others, ∀ cause ∈ other.causes, cause.serial ≠ outermost.serial)
    (later : stack.next ≤ next) (below : outermost.serial < next) :
    (FaultStack.mk (⟨outermost, inner⟩ :: others) next).IsSound := by
  have innerAlive {cell : List SharedCause} (nonempty : cell ≠ []) (suffix : cell <:+ inner) : cell ∈ stack.cells := by
    obtain rfl | isCell := held
    · exact absurd (List.suffix_nil.mp suffix) nonempty
    · obtain ⟨fault, live, isSuffix⟩ := mem_cells.mp isCell
      exact mem_cells.mpr ⟨fault, live, suffix.trans isSuffix⟩
  -- What is alive afterwards is the new chain or was alive before, under another serial.
  have old {cause : SharedCause} {causes : List SharedCause}
      (isCell : cause :: causes ∈ (FaultStack.mk (⟨outermost, inner⟩ :: others) next).cells) :
      cause :: causes = outermost :: inner ∨ (cause :: causes ∈ stack.cells ∧ cause.serial ≠ outermost.serial) := by
    obtain ⟨fault, live, suffix⟩ := mem_cells.mp isCell
    obtain rfl | isOther := List.mem_cons.mp live
    · obtain whole | isInner := List.suffix_cons_iff.mp suffix
      · exact .inl whole
      · exact .inr ⟨innerAlive (List.cons_ne_nil _ _) isInner, notInner cause (isInner.subset List.mem_cons_self)⟩
    · refine .inr ⟨mem_cells.mpr ⟨fault, kept isOther, suffix⟩, ?_⟩
      exact notOther fault isOther cause (suffix.subset List.mem_cons_self)
  refine ⟨?fresh, ?distinct, ?single⟩
  case fresh =>
    refine List.forall_mem_cons.mpr ⟨List.forall_mem_cons.mpr ⟨below, fun cause present => ?_⟩,
      fun other isOther cause present => ?_⟩
    · obtain ⟨front, back, rfl⟩ := List.append_of_mem present
      have isCell := innerAlive (List.cons_ne_nil cause back) (List.suffix_append front _)
      exact Nat.lt_of_lt_of_le (mem_cells_fresh sound isCell) later
    · exact Nat.lt_of_lt_of_le (sound.fresh other (kept isOther) cause present) later
  case distinct =>
    refine List.forall_mem_cons.mpr ⟨List.nodup_cons.mpr ⟨fun present => ?_, ?_⟩,
      fun other isOther => sound.distinct other (kept isOther)⟩
    · obtain ⟨cause, isInner, same⟩ := List.mem_map.mp present
      exact notInner cause isInner same
    · obtain rfl | isCell := held
      · exact List.nodup_nil
      · obtain ⟨fault, live, suffix⟩ := mem_cells.mp isCell
        exact (sound.distinct fault live).sublist (suffix.sublist.map _)
  case single =>
    intro cause causes other otherCauses left right same
    obtain whole | ⟨isOld, differs⟩ := old left
    · obtain otherWhole | ⟨_, otherDiffers⟩ := old right
      · rw [whole, otherWhole]
      · exact absurd (same.symm.trans (congrArg SharedCause.serial (List.cons.inj whole).1)) otherDiffers
    · obtain otherWhole | ⟨otherOld, _⟩ := old right
      · exact absurd (same.trans (congrArg SharedCause.serial (List.cons.inj otherWhole).1)) differs
      · exact sound.single cause causes other otherCauses isOld otherOld same

/-- The next serial is that of no cause. -/
theorem next_fresh {fault : LiveFault} (live : fault ∈ stack.faults) :
    ∀ cause ∈ fault.causes, cause.serial ≠ stack.next :=
  fun cause present => Nat.ne_of_lt (sound.fresh fault live cause present)

/-- A new cause in front of a live fault. -/
theorem wrap (cause : Cause) {fault : LiveFault} (live : fault ∈ stack.faults) {others : List LiveFault}
    (kept : others ⊆ stack.faults) :
    (FaultStack.mk (⟨⟨stack.next, cause⟩, fault.causes⟩ :: others) (stack.next + 1)).IsSound :=
  sound.chain kept (.inr (causes_mem_cells live)) (sound.next_fresh live)
    (fun _ isOther => sound.next_fresh (kept isOther)) (Nat.le_succ _) (Nat.lt_succ_self _)

/-- The context in front of a live fault: itself if nothing else refers to it, or else a new note. -/
theorem within {context fault : LiveFault} (isContext : context ∈ stack.faults) (live : fault ∈ stack.faults)
    {others : List LiveFault} (kept : others ⊆ stack.faults) :
    (FaultStack.mk (FaultStack.within stack.next fault context others :: others) (stack.next + 1)).IsSound := by
  unfold FaultStack.within
  split
  · next alone =>
      simp only [Bool.and_eq_true, Bool.not_eq_true', List.any_eq_false, LiveFault.isWithin_iff, not_exists, not_and,
        List.forall_mem_cons] at alone
      obtain ⟨_, notInner, notOther⟩ := alone
      have below := sound.fresh context isContext context.outermost List.mem_cons_self
      exact sound.chain kept (.inr (causes_mem_cells live)) notInner notOther (Nat.le_succ _) (Nat.lt_succ_of_lt below)
  · exact sound.wrap _ live kept

/-- What one step does keeps the stack sound. -/
theorem step (step : FaultStep) : (stack.step step).IsSound := by
  obtain ⟨faults, next⟩ := stack
  cases step with
  | raise cause =>
      exact sound.chain (List.Subset.refl _) (.inl rfl) nofun (fun _ live => sound.next_fresh live) (Nat.le_succ _)
        (Nat.lt_succ_self _)
  | clone =>
      cases faults with
      | nil => exact sound
      | cons fault rest => exact sound.subset (List.cons_subset.mpr ⟨List.mem_cons_self, List.Subset.refl _⟩)
  | drop => exact sound.subset (List.tail_subset _)
  | swap =>
      rcases faults with _ | ⟨first, _ | ⟨second, rest⟩⟩
      · exact sound
      · exact sound
      · exact sound.subset (List.Perm.swap _ _ _).subset
  | note message =>
      cases faults with
      | nil => exact sound
      | cons fault rest => exact sound.wrap _ List.mem_cons_self (List.subset_cons_self _ _)
  | context =>
      rcases faults with _ | ⟨context, _ | ⟨fault, rest⟩⟩
      · exact sound
      · exact sound
      · exact sound.within List.mem_cons_self (List.mem_cons_of_mem _ List.mem_cons_self)
          fun other isOther => List.mem_cons_of_mem _ (List.mem_cons_of_mem _ isOther)

/-- The newest fault is referred to once if and only if it is neither another fault nor inside one. -/
theorem references_eq_one {context : LiveFault} {others : List LiveFault} (faults : stack.faults = context :: others) :
    stack.references context.outermost.serial = 1 ↔ ∀ other ∈ others, context.isWithin other = false := by
  have isContext : context ∈ stack.faults := faults ▸ List.mem_cons_self
  have own : (stack.faults.countP fun fault => fault.outermost.serial == context.outermost.serial) =
      (others.countP fun fault => fault.outermost.serial == context.outermost.serial) + 1 := by
    rw [faults]
    exact List.countP_cons_of_pos (beq_self_eq_true _)
  have none : stack.references context.outermost.serial = 1 ↔
      (∀ other ∈ others, other.outermost.serial ≠ context.outermost.serial) ∧
        ∀ cell ∈ stack.cells, ∀ cause ∈ cell.tail.head?, cause.serial ≠ context.outermost.serial := by
    simp only [references, own, Nat.add_right_comm _ 1, Nat.add_eq_right, Nat.add_eq_zero_iff, List.countP_eq_zero,
      beq_iff_eq, Option.any_eq_true, not_exists, not_and, ne_eq, Option.mem_def]
  rw [none]
  simp only [Bool.eq_false_iff, ne_eq, LiveFault.isWithin_iff, not_exists, not_and]
  constructor
  · rintro ⟨notOther, notInside⟩ other isOther cause present same
    obtain rfl | isInner := List.mem_cons.mp present
    · exact notOther other isOther same
    · obtain ⟨around, behind, suffix⟩ := exists_around isInner other.outermost
      have live : other ∈ stack.faults := faults ▸ List.mem_cons_of_mem _ isOther
      exact notInside _ (mem_cells.mpr ⟨other, live, suffix⟩) cause rfl same
  · intro notWithin
    refine ⟨fun other isOther => notWithin other isOther _ List.mem_cons_self, fun cell isCell cause isNext same => ?_⟩
    obtain ⟨fault, live, suffix⟩ := mem_cells.mp isCell
    have isInner : cause ∈ fault.inner := by
      obtain rfl | isSuffix := List.suffix_cons_iff.mp suffix
      · exact List.mem_of_mem_head? isNext
      · exact isSuffix.subset (List.mem_of_mem_tail (List.mem_of_mem_head? isNext))
    rw [faults] at live
    obtain rfl | isOther := List.mem_cons.mp live
    · -- No fault is inside itself.
      have distinct := (List.nodup_cons.mp (sound.distinct fault isContext)).1
      exact distinct (List.mem_map.mpr ⟨cause, isInner, same⟩)
    · exact notWithin fault isOther cause (List.mem_cons_of_mem _ isInner) same

end IsSound

/-- Context in front of a fault: its text always, its kind where nothing else refers to it. -/
theorem within_chained {context fault : LiveFault} {others : List LiveFault}
    (sound : stack.IsSound) (faults : stack.faults = context :: fault :: others) (next : Nat) :
    (within next fault context others).message = context.message ++ ": " ++ fault.message ∧
      (within next fault context others).kind =
        if stack.references context.outermost.serial = 1 ∧ context.inner = [] then context.kind else .note := by
  have alone : (fault :: others).any context.isWithin = false ↔ stack.references context.outermost.serial = 1 := by
    rw [sound.references_eq_one faults, List.any_eq_false]
    simp only [Bool.not_eq_true]
  unfold within
  split
  · next inPlace =>
      simp only [Bool.and_eq_true, List.isEmpty_iff, Bool.not_eq_true'] at inPlace
      rw [if_pos ⟨alone.mp inPlace.2, inPlace.1⟩, LiveFault.message_single inPlace.1]
      exact ⟨LiveFault.message_chained _ _, rfl⟩
  · next wrapped =>
      simp only [Bool.and_eq_true, List.isEmpty_iff, Bool.not_eq_true'] at wrapped
      rw [if_neg fun single => wrapped ⟨single.2, alone.mpr single.1⟩]
      exact ⟨LiveFault.message_chained _ _, rfl⟩

/-- No two of the causes that are alive have one serial, so that each is counted once. -/
theorem IsSound.serials_nodup (sound : stack.IsSound) :
    (stack.cells.filterMap fun cell => cell.head?.map (·.serial)).Nodup := by
  refine List.pairwise_filterMap.mpr ((List.nodup_dedup _).imp_of_mem fun {cell other} isCell isOther differ => ?_)
  intro serial isSerial otherSerial isOtherSerial same
  obtain ⟨cause, isHead, rfl⟩ := Option.map_eq_some_iff.mp isSerial
  obtain ⟨otherCause, isOtherHead, rfl⟩ := Option.map_eq_some_iff.mp isOtherSerial
  obtain ⟨inner, rfl⟩ := List.head?_eq_some_iff.mp isHead
  obtain ⟨otherInner, rfl⟩ := List.head?_eq_some_iff.mp isOtherHead
  exact differ (sound.single cause inner otherCause otherInner isCell isOther same)

theorem run_isSound (steps : List FaultStep) : (run steps).IsSound :=
  List.foldlRecOn (motive := IsSound) steps _ .empty fun _ sound step _ => sound.step step

/-- After every run of steps context is chained in front of the newest fault, be it a text or a fault: the texts
follow each other, the other faults stay as they are, and the kind is that of the context if the reference to it is the
only one and it has no cause inside, or else that of a note. -/
theorem run_context (steps : List FaultStep) :
    ((run steps).cells.filterMap fun cell => cell.head?.map (·.serial)).Nodup ∧
    (∀ message fault others, (run steps).faults = fault :: others →
      ∃ chained, (run (steps ++ [.note message])).faults = chained :: others ∧
        chained.message = message ++ ": " ++ fault.message ∧ chained.kind = .note) ∧
    ∀ context fault others, (run steps).faults = context :: fault :: others →
      ∃ chained, (run (steps ++ [.context])).faults = chained :: others ∧
        chained.message = context.message ++ ": " ++ fault.message ∧ chained.kind =
          if (run steps).references context.outermost.serial = 1 ∧ context.inner = [] then context.kind else .note := by
  have sound := run_isSound steps
  refine ⟨sound.serials_nodup, fun message fault others faults => ?text, fun context fault others faults => ?fault⟩
  case text =>
    refine ⟨⟨⟨(run steps).next, .note message⟩, fault.causes⟩, ?_, LiveFault.message_chained _ _, rfl⟩
    rw [run, List.foldl_append, List.foldl_cons, List.foldl_nil, ← run, step, faults]
  case fault =>
    refine ⟨within (run steps).next fault context others, ?_, within_chained sound faults _⟩
    rw [run, List.foldl_append, List.foldl_cons, List.foldl_nil, ← run, step, faults]

/-- A fault and its context, of which there is a clone. -/
def sharedSteps : List FaultStep := [.raise (.invalidSchema "no base"), .clone, .raise (.unknownType "Order"), .swap]

/-- The context loses its kind because of its clone, but not its text. -/
theorem run_context_shared : (∃ chained context, (run (sharedSteps ++ [.context])).faults = [chained, context] ∧
    (run sharedSteps).references context.outermost.serial = 2 ∧ context.kind = .invalidSchema ∧
      chained.message = "invalid schema: no base: unknown type `Order`" ∧ chained.kind = .note) ∧
    ∃ chained others, (run (sharedSteps ++ [.note "in a file"])).faults = chained :: others ∧
      chained.message = "in a file: invalid schema: no base" ∧ chained.kind = .note := by
  obtain ⟨_, text, fault⟩ := run_context sharedSteps
  constructor
  · obtain ⟨chained, faults, message, kind⟩ := fault _ _ _ rfl
    exact ⟨chained, _, faults, by decide, rfl, message, kind⟩
  · obtain ⟨chained, faults, message, kind⟩ := text "in a file" _ _ rfl
    exact ⟨chained, _, faults, message, kind⟩

end FaultStack

end ObjectMapping
