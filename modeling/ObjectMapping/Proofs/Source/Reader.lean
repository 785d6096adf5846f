/-
This file defines what a reader does that reads and writes phrases, and proves it of the ways in which
readers are put together.
-/

import ObjectMapping.Proofs.Fallible
import ObjectMapping.Proofs.Source.Phrase
import ObjectMapping.Source.Reader

namespace ObjectMapping.Source

/-- A phrase has been read and a phrase has been written out. -/
def Feed.Extends (before after : Feed) : Prop :=
  ∃ read written, before.rest = read ++ after.rest ∧
    after.written = written.reverse ++ before.written ∧ IsPhrase read ∧ IsPhrase written

namespace Feed.Extends

theorem refl (feed : Feed) : feed.Extends feed := ⟨[], [], rfl, rfl, .nil, .nil⟩

theorem trans {before between after : Feed} (first : before.Extends between)
    (second : between.Extends after) : before.Extends after := by
  obtain ⟨firstRead, firstWritten, firstRest, firstOut, firstReadPhrase, firstPhrase⟩ := first
  obtain ⟨read, written, rest, out, readPhrase, phrase⟩ := second
  refine ⟨firstRead ++ read, firstWritten ++ written, ?_, ?_, firstReadPhrase.append readPhrase,
    firstPhrase.append phrase⟩
  · rw [firstRest, rest, List.append_assoc]
  · rw [out, firstOut, List.reverse_append, List.append_assoc]

/-- What is left is left of the same text. -/
theorem source {before after : Feed} (extended : before.Extends after) (source : IsSource before.rest) :
    IsSource after.rest := by
  obtain ⟨read, _, rest, _⟩ := extended
  rw [rest] at source
  exact source.suffix

theorem length_le {before after : Feed} (extended : before.Extends after) :
    after.rest.length ≤ before.rest.length := by
  obtain ⟨read, _, rest, _⟩ := extended
  rw [rest, List.length_append]
  exact Nat.le_add_left _ _

end Feed.Extends

/-- The front of a list is what is taken of it up to the rest. -/
theorem front_taken {tokens read rest : List Token} (split : tokens = read ++ rest) :
    tokens.take (tokens.length - rest.length) = read := by
  rw [split, List.length_append, Nat.add_sub_cancel, List.take_left]

namespace Reader

/-- On tokens that satisfy the condition the reader reads and writes phrases and gives a good value. -/
def YieldsFrom {α : Type} (Start : List Token → Prop) (reader : Reader α) (Good : α → Prop) : Prop :=
  ∀ ⦃before after : Feed⦄ ⦃value : α⦄, IsSource before.rest → Start before.rest →
    reader before = .ok (value, after) → before.Extends after ∧ Good value

/-- The reader reads and writes phrases and gives a good value. -/
abbrev Yields {α : Type} (reader : Reader α) (Good : α → Prop) : Prop :=
  YieldsFrom (fun _ => True) reader Good

/-- The reader reads and writes phrases. -/
abbrev Reads {α : Type} (reader : Reader α) : Prop := Yields reader fun _ => True

section

variable {α β : Type} {Start : List Token → Prop} {reader : Reader α} {Good : α → Prop}
  {Better : β → Prop}

theorem bind_ok {next : α → Reader β} {before after : Feed} {value : β}
    (ran : (reader >>= next) before = .ok (value, after)) :
    ∃ found between, reader before = .ok (found, between) ∧ next found between = .ok (value, after) := by
  cases first : reader before with
  | error fault =>
      simp only [bind, StateT.bind, first, Except.bind] at ran
      cases ran
  | ok result =>
      simp only [bind, StateT.bind, first, Except.bind] at ran
      exact ⟨result.1, result.2, rfl, ran⟩

theorem YieldsFrom.bind {next : α → Reader β} (first : YieldsFrom Start reader Good)
    (second : ∀ value, Good value → Yields (next value) Better) :
    YieldsFrom Start (reader >>= next) Better := by
  intro before after value source start ran
  obtain ⟨found, between, firstRan, secondRan⟩ := bind_ok ran
  obtain ⟨firstExtends, good⟩ := first source start firstRan
  obtain ⟨secondExtends, better⟩ := second found good (firstExtends.source source) trivial secondRan
  exact ⟨firstExtends.trans secondExtends, better⟩

/-- A reader whose value is dropped. -/
theorem YieldsFrom.then {next : Reader β} (first : YieldsFrom Start reader Good)
    (second : Yields next Better) : YieldsFrom Start (reader >>= fun _ => next) Better :=
  first.bind fun _ _ => second

theorem YieldsFrom.mono {Better : α → Prop} (yields : YieldsFrom Start reader Good)
    (better : ∀ value, Good value → Better value) : YieldsFrom Start reader Better :=
  fun _ _ _ source start ran => (yields source start ran).imp_right (better _)

theorem YieldsFrom.pure {value : α} (good : Good value) : Yields (pure value) Good := by
  intro before after found _ _ ran
  cases ran
  exact ⟨.refl _, good⟩

theorem pure_reads (value : α) : Reads (Pure.pure value : Reader α) := .pure trivial

/-- A reader whose value is handed on in any form. -/
theorem YieldsFrom.give {form : α → β} (yields : YieldsFrom Start reader Good) :
    YieldsFrom Start (reader >>= fun value => Pure.pure (form value)) fun _ => True :=
  yields.bind fun _ _ => .pure trivial

theorem YieldsFrom.throw (fault : SyntaxFault) : Yields (throw fault : Reader α) Good := by
  intro before after value _ _ ran
  cases ran

theorem YieldsFrom.refuse (phrase : String) : Yields (refuse phrase : Reader α) Good := by
  intro before after value _ _ ran
  cases ran

theorem YieldsFrom.ite {condition : Prop} [Decidable condition] {other : Reader α}
    (ofTrue : Yields reader Good) (ofFalse : Yields other Good) :
    Yields (if condition then reader else other) Good := by
  split
  · exact ofTrue
  · exact ofFalse

/-- A reader that runs under a condition in front of another one. -/
theorem YieldsFrom.optional {γ : Type} {condition : Prop} [Decidable condition] {Any : γ → Prop}
    {other : Reader γ} (first : Yields other Any) (second : Yields reader Good) :
    Yields (if condition then other >>= fun _ => reader else reader) Good :=
  .ite (first.then second) second

/-- A reader that is chosen by the answer of the one in front of it. -/
theorem YieldsFrom.branch {Any : Bool → Prop} {condition : Reader Bool} {holds : Bool → Prop}
    [∀ answer, Decidable (holds answer)] {other : Reader α} (first : YieldsFrom Start condition Any)
    (ofTrue : Yields reader Good) (ofFalse : Yields other Good) :
    YieldsFrom Start (condition >>= fun answer => if holds answer then reader else other) Good :=
  first.bind fun _ _ => .ite ofTrue ofFalse

theorem sees_reads (test : List Token → Bool) : Reads (sees test) := by
  intro before after value _ _ ran
  cases ran
  exact ⟨.refl _, trivial⟩

/-- A reader that is chosen by what comes, and can rely on it. -/
theorem YieldsFrom.ifSees {test : List Token → Bool} {holds : Bool → Prop}
    [∀ answer, Decidable (holds answer)] {other : Reader α}
    (relies : ∀ answer, holds answer → answer = true)
    (ofTrue : YieldsFrom (fun tokens => test tokens) reader Good) (ofFalse : Yields other Good) :
    Yields (Reader.sees test >>= fun seen => if holds seen then reader else other) Good := by
  intro before after value source _ ran
  obtain ⟨seen, between, first, second⟩ := bind_ok ran
  cases first
  split at second
  · exact ofTrue source (relies _ ‹_›) second
  · exact ofFalse source trivial second

/-- A reader that relies on less than is given. -/
theorem YieldsFrom.weaken {Weaker : List Token → Prop} (yields : YieldsFrom Weaker reader Good)
    (weaker : ∀ tokens, Start tokens → Weaker tokens) : YieldsFrom Start reader Good :=
  fun _ _ _ source start ran => yields source (weaker _ start) ran

/-- A reader that is chosen by what comes. -/
theorem YieldsFrom.seesIf {test : List Token → Bool} {holds : Bool → Prop}
    [∀ answer, Decidable (holds answer)] {other : Reader α} (ofTrue : Yields reader Good)
    (ofFalse : Yields other Good) :
    Yields (Reader.sees test >>= fun seen => if holds seen then reader else other) Good :=
  (sees_reads test).branch ofTrue ofFalse

theorem get_reads : Reads MonadState.get := by
  intro before after value _ _ ran
  cases ran
  exact ⟨.refl _, trivial⟩

theorem YieldsFrom.get {next : Feed → Reader α} (yields : ∀ feed, Yields (next feed) Good) :
    Yields (MonadState.get >>= next) Good := by
  intro before after value source _ ran
  exact yields before source trivial ran

/-- The tokens that are captured are a phrase. -/
theorem YieldsFrom.capture (yields : YieldsFrom Start reader Good) :
    YieldsFrom Start (capture reader) fun found => IsPhrase found.1 ∧ Good found.2 := by
  intro before after found source starts ran
  obtain ⟨start, unchanged, first, ran⟩ := bind_ok ran
  cases first
  obtain ⟨_, cleared, first, ran⟩ := bind_ok ran
  cases first
  obtain ⟨value, between, bodyRan, last⟩ := bind_ok ran
  obtain ⟨⟨read, written, rest, out, readPhrase, phrase⟩, good⟩ :=
    @yields { before with written := [] } between value source starts bodyRan
  cases last
  rw [List.append_nil] at out
  exact ⟨⟨read, written, rest, congrArg (· ++ before.written) out, readPhrase, phrase⟩,
    by rw [out, List.reverse_reverse]; exact phrase, good⟩

/-- The tokens that are withheld are a phrase. -/
theorem YieldsFrom.withhold (yields : Yields reader Good) :
    Yields (withhold reader) fun found => IsPhrase found.1 ∧ Good found.2 := by
  intro before after found source _ ran
  obtain ⟨start, unchanged, first, ran⟩ := bind_ok ran
  cases first
  obtain ⟨_, cleared, first, ran⟩ := bind_ok ran
  cases first
  obtain ⟨value, between, bodyRan, last⟩ := bind_ok ran
  obtain ⟨⟨read, written, rest, out, readPhrase, phrase⟩, good⟩ :=
    @yields { before with written := [] } between value source trivial bodyRan
  cases last
  rw [List.append_nil] at out
  exact ⟨⟨read, [], rest, rfl, readPhrase, .nil⟩,
    by rw [out, List.reverse_reverse]; exact phrase, good⟩

theorem write_reads {tokens : List Token} (phrase : IsPhrase tokens) : Reads (write tokens) := by
  intro before after value _ _ ran
  cases ran
  exact ⟨⟨[], tokens, rfl, rfl, .nil, phrase⟩, trivial⟩

/-- What a reader has taken is a phrase, also where it is written out as it stands. -/
theorem YieldsFrom.verbatimIf {body : Reader (Bool × α)} (yields : Yields body fun found => Good found.2) :
    Yields (verbatimIf body) Good := by
  intro before after value source _ ran
  obtain ⟨start, between, first, ran⟩ := bind_ok ran
  cases first
  obtain ⟨⟨tokens, isVerbatim, found⟩, between, bodyRan, ran⟩ := bind_ok ran
  obtain ⟨extended, phrase, good⟩ := yields.withhold source trivial bodyRan
  obtain ⟨current, unchanged, first, ran⟩ := bind_ok ran
  cases first
  obtain ⟨read, _, rest, _, readPhrase, _⟩ := id extended
  have written : IsPhrase (if isVerbatim then before.rest.take (before.rest.length - between.rest.length)
      else tokens) := by
    rw [front_taken rest]
    split
    · exact readPhrase
    · exact phrase
  obtain ⟨_, last, writeRan, ran⟩ := bind_ok ran
  cases ran
  exact ⟨extended.trans (write_reads written (extended.source source) trivial writeRan).1, good⟩

theorem YieldsFrom.verbatim (yields : Yields reader Good) : Yields (verbatim reader) Good := by
  intro before after value source _ ran
  obtain ⟨start, between, first, ran⟩ := bind_ok ran
  cases first
  obtain ⟨⟨tokens, found⟩, between, bodyRan, ran⟩ := bind_ok ran
  obtain ⟨extended, phrase, good⟩ := yields.withhold source trivial bodyRan
  obtain ⟨current, unchanged, first, ran⟩ := bind_ok ran
  cases first
  obtain ⟨read, _, rest, _, readPhrase, _⟩ := id extended
  obtain ⟨_, last, writeRan, ran⟩ := bind_ok ran
  cases ran
  rw [front_taken rest] at writeRan
  exact ⟨extended.trans (write_reads readPhrase (extended.source source) trivial writeRan).1, good⟩

theorem YieldsFrom.attempt (yields : Yields reader Good) :
    Yields (attempt reader) fun found => ∀ value ∈ found, Good value := by
  intro before after found source _ ran
  unfold Reader.attempt at ran
  split at ran
  · rename_i value between bodyRan
    cases ran
    obtain ⟨extended, good⟩ := yields source trivial bodyRan
    exact ⟨extended, fun _ same => Option.some.inj same ▸ good⟩
  · cases ran
    exact ⟨.refl _, nofun⟩

theorem budget_reads : Reads budget := .get fun _ => .pure trivial

theorem YieldsFrom.repeatedly (yields : Yields reader Good) (test : List Token → Bool) (budget : Nat) :
    Yields (repeatedly test reader budget) fun found => ∀ value ∈ found, Good value := by
  induction budget with
  | zero => exact .refuse _
  | succ budget inductionHypothesis =>
      exact .seesIf
        (yields.bind fun _ good => inductionHypothesis.bind fun _ others =>
          .pure (List.forall_mem_cons.mpr ⟨good, others⟩))
        (.pure nofun)

theorem YieldsFrom.many (yields : Yields reader Good) (test : List Token → Bool) :
    Yields (many test reader) fun found => ∀ value ∈ found, Good value :=
  budget_reads.bind fun _ _ => yields.repeatedly test _

theorem YieldsFrom.untilEnd (yields : Yields reader Good) :
    Yields (untilEnd reader) fun found => ∀ value ∈ found, Good value := yields.many _

theorem YieldsFrom.joinedWithin (yields : Yields reader Good) {divide : Reader Unit} (divides : Reads divide)
    (separator test : List Token → Bool) (budget : Nat) :
    Yields (joinedWithin separator divide test reader budget) fun found =>
      ∀ value ∈ found, Good value := by
  induction budget with
  | zero => exact .refuse _
  | succ budget inductionHypothesis =>
      refine yields.bind fun _ good => ?_
      have single : ∀ other ∈ [_], Good other := List.forall_mem_singleton.mpr good
      exact .seesIf
        (divides.then (.seesIf
          (inductionHypothesis.bind fun _ others => .pure (List.forall_mem_cons.mpr ⟨good, others⟩))
          (.pure single)))
        (.pure single)

end

end Reader

end ObjectMapping.Source
