/-
This file proves of readers that they take at least one token. An operand has to follow a slash, which
could start a comment with what is written behind it.
-/

import ObjectMapping.Proofs.Source.Reader

namespace ObjectMapping.Source.Reader

/-- The reader reads and writes phrases and gives a good value; it takes a token if the value is of the
given kind. -/
def MovesTo {α : Type} (Reached : α → Prop) (reader : Reader α) (Good : α → Prop) : Prop :=
  ∀ ⦃before after : Feed⦄ ⦃value : α⦄, IsSource before.rest → reader before = .ok (value, after) →
    before.Extends after ∧ Good value ∧ (Reached value → after.rest.length < before.rest.length)

/-- The reader takes a token, reads and writes phrases and gives a good value. -/
abbrev Moves {α : Type} (reader : Reader α) (Good : α → Prop) : Prop := MovesTo (fun _ => True) reader Good

section

variable {α β : Type} {reader : Reader α} {Good : α → Prop} {Better Reached : β → Prop}

theorem MovesTo.yields {Reached : α → Prop} (moves : MovesTo Reached reader Good) : Yields reader Good := by
  intro before after value source _ ran
  obtain ⟨extended, good, _⟩ := moves source ran
  exact ⟨extended, good⟩

theorem MovesTo.mono {Reached Better : α → Prop} (moves : MovesTo Reached reader Good)
    (better : ∀ value, Good value → Better value) : MovesTo Reached reader Better :=
  fun _ _ _ source ran => (moves source ran).imp_right (And.imp_left (better _))

/-- The first of two readers takes a token. -/
theorem MovesTo.first {next : α → Reader β} (moves : Moves reader Good)
    (yields : ∀ value, Good value → Yields (next value) Better) :
    MovesTo Reached (reader >>= next) Better := by
  intro before after value source ran
  obtain ⟨found, between, first, second⟩ := bind_ok ran
  obtain ⟨extended, good, shorter⟩ := moves source first
  obtain ⟨further, better⟩ := yields found good (extended.source source) trivial second
  exact ⟨extended.trans further, better, fun _ => Nat.lt_of_le_of_lt further.length_le (shorter trivial)⟩

/-- The second of two readers takes a token. -/
theorem YieldsFrom.second {next : α → Reader β} (yields : Yields reader Good)
    (moves : ∀ value, Good value → MovesTo Reached (next value) Better) :
    MovesTo Reached (reader >>= next) Better := by
  intro before after value source ran
  obtain ⟨found, between, first, second⟩ := bind_ok ran
  obtain ⟨extended, good⟩ := yields source trivial first
  obtain ⟨further, better, shorter⟩ := moves found good (extended.source source) second
  exact ⟨extended.trans further, better, fun reached =>
    Nat.lt_of_lt_of_le (shorter reached) extended.length_le⟩

theorem MovesTo.pure {Reached : α → Prop} {value : α} (good : Good value) (unreached : ¬Reached value) :
    MovesTo Reached (Pure.pure value) Good := by
  intro before after found source ran
  cases ran
  exact ⟨.refl _, good, fun reached => absurd reached unreached⟩

theorem MovesTo.refuse {Reached : α → Prop} (phrase : String) :
    MovesTo Reached (Reader.refuse phrase) Good := by
  intro before after value source ran
  cases ran

theorem MovesTo.ite {Reached : α → Prop} {condition : Prop} [Decidable condition] {other : Reader α}
    (ofTrue : MovesTo Reached reader Good) (ofFalse : MovesTo Reached other Good) :
    MovesTo Reached (if condition then reader else other) Good := by
  split
  · exact ofTrue
  · exact ofFalse

theorem MovesTo.seesIf {Reached : α → Prop} {test : List Token → Bool} {holds : Bool → Prop}
    [∀ answer, Decidable (holds answer)] {other : Reader α} (ofTrue : MovesTo Reached reader Good)
    (ofFalse : MovesTo Reached other Good) :
    MovesTo Reached (Reader.sees test >>= fun seen => if holds seen then reader else other) Good :=
  (sees_reads test).second fun _ _ => .ite ofTrue ofFalse

/-- Either the reader in front has taken a token or the one behind it takes one. -/
theorem MovesTo.bind {First : α → Prop} {next : α → Reader β} (front : MovesTo First reader Good)
    (reached : ∀ value, First value → Good value → Yields (next value) Better)
    (unreached : ∀ value, ¬First value → Good value → MovesTo Reached (next value) Better) :
    MovesTo Reached (reader >>= next) Better := by
  intro before after value source ran
  obtain ⟨found, between, first, second⟩ := bind_ok ran
  obtain ⟨extended, good, shorter⟩ := front source first
  by_cases moved : First found
  · obtain ⟨further, better⟩ := reached found moved good (extended.source source) trivial second
    exact ⟨extended.trans further, better, fun _ =>
      Nat.lt_of_le_of_lt further.length_le (shorter moved)⟩
  · obtain ⟨further, better, nextShorter⟩ := unreached found moved good (extended.source source) second
    exact ⟨extended.trans further, better, fun holds =>
      Nat.lt_of_lt_of_le (nextShorter holds) extended.length_le⟩

theorem MovesTo.branch {Reached : α → Prop} {Any : Bool → Prop} {condition : Reader Bool}
    {other : Reader α} (front : MovesTo (· = true) condition Any) (ofTrue : Yields reader Good)
    (ofFalse : MovesTo Reached other Good) :
    MovesTo Reached (condition >>= fun answer => if answer then reader else other) Good := by
  refine front.bind (fun answer isTrue _ => ?_) fun answer isFalse _ => ?_
  · rw [if_pos isTrue]
    exact ofTrue
  · rw [if_neg isFalse]
    exact ofFalse

theorem MovesTo.capture (moves : Moves reader Good) :
    Moves (capture reader) fun found => IsPhrase found.1 ∧ Good found.2 := by
  intro before after found source ran
  obtain ⟨extended, good⟩ := moves.yields.capture source trivial ran
  obtain ⟨start, unchanged, first, ran⟩ := bind_ok ran
  cases first
  obtain ⟨_, cleared, first, ran⟩ := bind_ok ran
  cases first
  obtain ⟨value, between, bodyRan, last⟩ := bind_ok ran
  obtain ⟨_, _, shorter⟩ := @moves { before with written := [] } between value source bodyRan
  cases last
  exact ⟨extended, good, shorter⟩

theorem MovesTo.verbatim (moves : Moves reader Good) : Moves (verbatim reader) Good := by
  intro before after value source ran
  obtain ⟨extended, good⟩ := moves.yields.verbatim source trivial ran
  refine ⟨extended, good, fun _ => ?_⟩
  obtain ⟨start, unchanged, first, ran⟩ := bind_ok ran
  cases first
  obtain ⟨found, between, bodyRan, ran⟩ := bind_ok ran
  obtain ⟨current, unchanged, first, ran⟩ := bind_ok ran
  cases first
  obtain ⟨_, written, writeRan, last⟩ := bind_ok ran
  cases writeRan
  cases last
  obtain ⟨start, unchanged, first, ran⟩ := bind_ok bodyRan
  cases first
  obtain ⟨_, cleared, first, ran⟩ := bind_ok ran
  cases first
  obtain ⟨value, between, bodyRan, last⟩ := bind_ok ran
  obtain ⟨_, _, shorter⟩ := @moves { before with written := [] } between value source bodyRan
  cases last
  exact shorter trivial

end

end ObjectMapping.Source.Reader
