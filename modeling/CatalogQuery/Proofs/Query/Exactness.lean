import CatalogQuery.Proofs.Query.Levels

/-! # Queries are what the grammar derives

The reader takes the first choice that works and never comes back to it, while the grammar leaves
every choice open. They agree all the same (`read?_iff_derivesQuery`), so the grammar gives no text
two meanings.

What is read is derived because each reader follows a rule. What is derived is read because no rule
that the reader tries earlier can lead elsewhere: where a keyword stands, an operand could only be a
literal whose key is spelt like the keyword, and then a colon stands where the keyword needs an
operand.
-/

namespace CatalogQuery.Query

/-! ## What is read is derived -/

/-- What the reader reads is a part of the level. -/
def Sound (keys : KeySet) (limit : Nat) (level : Level) (depth : Nat) (reader : Reader Filter) :
    Prop :=
  ∀ s filter rest, reader s = some (filter, rest) → Derives keys limit level depth s filter rest

section
variable {keys : KeySet} {limit depth : Nat} {level : Level} {reader operand : Reader Filter}

theorem Sound.shrinks (sound : Sound keys limit level depth reader) : Shrinks reader :=
  fun s filter rest read => (sound s filter rest read).length_lt

theorem Sound.eq_none {s : List Char} (sound : Sound keys limit level depth reader)
    (stops : Stops opensOperand s) : reader s = none := by
  cases read : reader s with
  | none => rfl
  | some found => exact absurd stops (sound s found.1 found.2 read).not_stops

theorem Sound.negation (sound : Sound keys limit .operand depth operand) :
    Sound keys limit .negation depth (negation? operand) := by
  intro s filter rest read
  rcases negation?_cases read with ⟨behind, child, keyword, found, rfl⟩ | plain
  · exact .not keyword (blanks_skipBlanks behind) (sound _ _ _ found)
  · exact .ofOperand (sound _ _ _ plain)

theorem Sound.conjunction (sound : Sound keys limit .operand depth operand) :
    Sound keys limit .conjunction depth (conjunction? operand) := by
  intro s filter rest read
  simp only [conjunction?, Option.bind_eq_bind, Option.bind_eq_some_iff, Prod.exists,
    Option.pure_def, Option.some.injEq] at read
  obtain ⟨left, middle, found, joined⟩ := read
  have step : ∀ left middle right rest, Derives keys limit .conjunction depth s left middle →
      conjunct? operand middle = some (right, rest) →
      Derives keys limit .conjunction depth s (.and left right) rest := by
    intro left middle right rest derived read
    rcases conjunct?_cases read with ⟨behind, keyword, found⟩ | found
    · exact .and derived (blanks_skipBlanks middle) keyword (blanks_skipBlanks behind)
        (sound.negation _ _ _ found)
    · exact .juxtaposed derived (blanks_skipBlanks middle) (sound.negation _ _ _ found)
  have derived := chain_induction step middle.length left middle
    (.ofNegation (sound.negation _ _ _ found))
  rwa [joined] at derived

theorem Sound.disjunction (sound : Sound keys limit .operand depth operand) :
    Sound keys limit .disjunction depth (disjunction? operand) := by
  intro s filter rest read
  simp only [disjunction?, Option.bind_eq_bind, Option.bind_eq_some_iff, Prod.exists,
    Option.pure_def, Option.some.injEq] at read
  obtain ⟨left, middle, found, joined⟩ := read
  have step : ∀ left middle right rest, Derives keys limit .disjunction depth s left middle →
      disjunct? operand middle = some (right, rest) →
      Derives keys limit .disjunction depth s (.or left right) rest := by
    intro left middle right rest derived read
    obtain ⟨behind, keyword, found⟩ := behind?_eq_some_iff.mp read
    exact .or derived (blanks_skipBlanks middle) keyword (blanks_skipBlanks behind)
      (sound.conjunction _ _ _ found)
  have derived := chain_induction step middle.length left middle
    (.ofConjunction (sound.conjunction _ _ _ found))
  rwa [joined] at derived

end

theorem sound_operand? (keys : KeySet) {limit depth : Nat} (within : depth ≤ limit) :
    Sound keys limit .operand depth (operand? keys (limit - depth)) := by
  -- The induction is on the groups that may still open inside each other.
  generalize remaining : limit - depth = room
  induction room generalizing depth with
  | zero =>
    intro s filter rest read
    exact derives_of_literal? read
  | succ room ih =>
    intro s filter rest read
    simp only [operand?] at read
    split at read
    · next inside =>
      obtain ⟨close, found, closes⟩ := group?_eq_some_iff.mp read
      have room : depth + 1 ≤ limit := by omega
      have sound := ih room (by omega)
      exact .group room (blanks_skipBlanks inside) (sound.disjunction _ _ _ found) closes
    · exact derives_of_literal? read

/-! ## What is derived is read

The induction on a derivation says of a loop that it gets as far as the derivation does, and leaves
open whether it goes on from there. A conjunction inside a disjunction has to be complete, so for a
disjunction nothing may stand behind the part that would lengthen its last conjunction.
-/

/-- The reader of the level gets through the part, up to the rest. -/
def Reads (operand : Reader Filter) : Level → List Char → Filter → List Char → Prop
  | .disjunction, s, filter, rest => conjunct? operand rest = none →
    disjunction? operand s = some (chain .or (disjunct? operand) rest.length filter rest)
  | .conjunction, s, filter, rest =>
    conjunction? operand s = some (chain .and (conjunct? operand) rest.length filter rest)
  | .negation, s, filter, rest => negation? operand s = some (filter, rest)
  | .operand, s, filter, rest => operand s = some (filter, rest)

theorem disjunct?_eq_none {operand : Reader Filter} {s : List Char}
    (stops : Stops opensOperand (Text.skipBlanks s)) :
    disjunct? operand s = none := by
  cases read : disjunct? operand s with
  | none => rfl
  | some found =>
    obtain ⟨behind, keyword, -⟩ := behind?_eq_some_iff.mp read
    exact absurd stops (keyword.not_stops lettered_or)

section
variable {keys : KeySet} {limit depth : Nat} {operand : Reader Filter}
variable (sound : Sound keys limit .operand depth operand)
include sound

theorem Sound.conjunct_shrinks : Shrinks (conjunct? operand) := by
  intro s filter rest read
  have skipped := (blanks_skipBlanks s).length_le
  rcases conjunct?_cases read with ⟨behind, keyword, found⟩ | found
  · have := keyword.length_le
    have := (blanks_skipBlanks behind).length_le
    have := sound.negation.shrinks _ _ _ found
    omega
  · have := sound.negation.shrinks _ _ _ found
    omega

theorem Sound.disjunct_shrinks : Shrinks (disjunct? operand) := by
  intro s filter rest read
  obtain ⟨behind, keyword, found⟩ := behind?_eq_some_iff.mp read
  have := (blanks_skipBlanks s).length_le
  have := keyword.length_le
  have := (blanks_skipBlanks behind).length_le
  have := sound.conjunction.shrinks _ _ _ found
  omega

theorem Sound.conjunct_eq_none {s : List Char} (stops : Stops opensOperand (Text.skipBlanks s)) :
    conjunct? operand s = none := by
  cases read : conjunct? operand s with
  | none => rfl
  | some found =>
    rcases conjunct?_cases read with ⟨behind, keyword, -⟩ | found
    · exact absurd stops (keyword.not_stops lettered_and)
    · rw [sound.negation.eq_none stops] at found
      contradiction

theorem Sound.negation_eq_none_of_keyword {word s behind : List Char}
    (keyword : Keyword word s behind) (lettered : Lettered word) (other : word ≠ ['n', 'o', 't'])
    (opens : ¬ Stops opensOperand (Text.skipBlanks behind)) : negation? operand s = none := by
  cases read : negation? operand s with
  | none => rfl
  | some found =>
    have derived := sound.negation s found.1 found.2 read
    obtain ⟨tail, colon⟩ := derived.colon_of_other_keyword keyword lettered other
    exact absurd (by rw [colon]; exact stops_cons.mpr (by decide)) opens

theorem Sound.conjunct_eq_none_of_or {s behind : List Char}
    (keyword : Keyword ['o', 'r'] (Text.skipBlanks s) behind)
    (opens : ¬ Stops opensOperand (Text.skipBlanks behind)) : conjunct? operand s = none := by
  cases read : conjunct? operand s with
  | none => rfl
  | some found =>
    rcases conjunct?_cases read with ⟨_, other, -⟩ | found
    · exact absurd (keyword.unique other lettered_or lettered_and).1 (by decide)
    · rw [sound.negation_eq_none_of_keyword keyword lettered_or (by decide) opens] at found
      contradiction

end

theorem operand?_of_key {keys : KeySet} {s rest : List Char} {key : String} {room : Nat}
    (isKey : Key keys s key rest) : operand? keys room s = literal? keys s := by
  obtain ⟨c, tail, rfl, opens⟩ := isKey.begins
  cases room with
  | zero => rfl
  | succ room =>
    simp only [operand?]
    split
    · next bracket =>
      obtain ⟨rfl, -⟩ := List.cons.inj bracket
      exact absurd opens (by decide)
    · rfl

theorem reads_of_derives {keys : KeySet} {limit depth : Nat} {level : Level} {s rest : List Char}
    {filter : Filter} (derived : Derives keys limit level depth s filter rest)
    (within : depth ≤ limit) : Reads (operand? keys (limit - depth)) level s filter rest := by
  induction derived with
  | @or depth s middle word behind next rest left right _ blanks keyword more derived leftReads
      rightReads =>
    intro ends
    have sound := sound_operand? keys within
    have skipped := blanks.skipBlanks_eq (keyword.stops_isBlank lettered_or)
    have reached := more.skipBlanks_eq derived.stops
    rw [← skipped] at keyword
    have rightRead := rightReads within
    simp only [Reads, chain_of_none ends] at rightRead
    have read := behind?_eq_some_iff.mpr ⟨behind, keyword, by rw [reached]; exact rightRead⟩
    have leftEnds := sound.conjunct_eq_none_of_or keyword (by rw [reached]; exact derived.not_stops)
    rw [leftReads within leftEnds, chain_of_some sound.disjunct_shrinks read]
  | @ofConjunction depth s rest filter _ same =>
    intro ends
    have read := same within
    simp only [Reads, chain_of_none ends] at read
    simp [disjunction?, read]
  | @and depth s middle word behind next rest left right _ blanks keyword more derived leftReads
      rightReads =>
    have sound := sound_operand? keys within
    have skipped := blanks.skipBlanks_eq (keyword.stops_isBlank lettered_and)
    have reached := more.skipBlanks_eq derived.stops
    rw [← skipped] at keyword
    have read := conjunct?_of_and keyword (by rw [reached]; exact rightReads within)
    have leftRead := leftReads within
    simp only [Reads] at leftRead ⊢
    rw [leftRead, chain_of_some sound.conjunct_shrinks read]
  | @juxtaposed depth s middle next rest left right _ blanks derived leftReads rightReads =>
    have sound := sound_operand? keys within
    have skipped := blanks.skipBlanks_eq derived.stops
    have read : conjunct? (operand? keys (limit - depth)) middle = some (right, rest) := by
      rw [conjunct?_of_negation, skipped]
      · exact rightReads within
      · -- If the operand begins with the letters of `AND`, the explicit choice meets its colon.
        intro behind keyword
        rw [skipped] at keyword
        obtain ⟨tail, colon⟩ :=
          derived.colon_of_other_keyword keyword lettered_and (by decide)
        exact sound.negation.eq_none (by rw [colon]; exact stops_cons.mpr (by decide))
    have leftRead := leftReads within
    simp only [Reads] at leftRead ⊢
    rw [leftRead, chain_of_some sound.conjunct_shrinks read]
  | @ofNegation depth s rest filter _ same =>
    have read := same within
    simp only [Reads] at read ⊢
    simp [conjunction?, read]
  | @not depth s behind next rest child keyword blanks derived childReads =>
    have reached := blanks.skipBlanks_eq derived.stops
    exact negation?_of_not keyword (by rw [reached]; exact childReads within)
  | @ofOperand depth s rest filter derived same =>
    have sound := sound_operand? keys within
    have read := same within
    simp only [Reads] at read ⊢
    rw [negation?_of_operand, read]
    -- If the operand begins with the letters of `NOT`, the negation meets its colon.
    intro behind keyword
    obtain ⟨tail, colon⟩ := derived.colon_of_keyword keyword lettered_not
    exact sound.eq_none (by rw [colon]; exact stops_cons.mpr (by decide))
  | @group depth s inside close rest filter room blanks derived closes insideReads =>
    have sound := sound_operand? keys (Nat.succ_le_of_lt room)
    have reached := blanks.skipBlanks_eq derived.stops
    have closed := closes.skipBlanks_eq (stops_cons.mpr (by decide))
    have ends : Stops opensOperand (Text.skipBlanks close) := by
      rw [closed]
      exact stops_cons.mpr (by decide)
    have read := insideReads room (sound.conjunct_eq_none ends)
    rw [chain_of_none (disjunct?_eq_none ends)] at read
    have next : limit - depth = limit - (depth + 1) + 1 := by omega
    simp only [Reads, next, operand?]
    exact group?_eq_some_iff.mpr ⟨close, by rw [reached]; exact read, closes⟩
  | @literal depth s colon behind next rest key value isKey blanks more isValue =>
    have read := literal?_eq_some_iff.mpr
      ⟨key, value, colon, behind, next, isKey, blanks, more, isValue, rfl⟩
    rw [← operand?_of_key isKey] at read
    exact read

/-! ## Whole queries -/

theorem readWithin?_iff_derivesQuery {keys : KeySet} {room : Nat} {query : String}
    {filter : Filter} :
    readWithin? keys room query = some filter ↔ DerivesQuery keys room query.toList filter := by
  have sound := sound_operand? keys (Nat.zero_le room)
  simp only [readWithin?, Option.bind_eq_bind, Option.bind_eq_some_iff, Prod.exists]
  constructor
  · rintro ⟨filter, rest, found, ends⟩
    split at ends
    · next blank =>
      cases ends
      refine ⟨_, rest, blanks_skipBlanks _, sound.disjunction _ _ _ found, ?_⟩
      rw [← List.isEmpty_iff.mp blank]
      exact blanks_skipBlanks rest
    · contradiction
  · rintro ⟨s, rest, blanks, derived, ends⟩
    have reached := blanks.skipBlanks_eq derived.stops
    have finished := ends.skipBlanks_eq stops_nil
    have closed : Stops opensOperand (Text.skipBlanks rest) := by
      rw [finished]
      exact stops_nil
    have read := reads_of_derives derived (Nat.zero_le room) (sound.conjunct_eq_none closed)
    rw [chain_of_none (disjunct?_eq_none closed)] at read
    exact ⟨filter, rest, by rw [reached]; exact read, by simp [finished]⟩

/-- A query is read exactly if the grammar derives it, as the filter it is derived for, and is
refused otherwise. No text is derived for two filters. -/
theorem read?_iff_derivesQuery (keys : KeySet) (query : String) :
    (∀ filter, read? keys query = some filter ↔
      DerivesQuery keys maxNesting query.toList filter) ∧
    (read? keys query = none ↔ ∀ filter, ¬ DerivesQuery keys maxNesting query.toList filter) ∧
    (∀ left right, DerivesQuery keys maxNesting query.toList left →
      DerivesQuery keys maxNesting query.toList right → left = right) := by
  have agree : ∀ filter, read? keys query = some filter ↔
      DerivesQuery keys maxNesting query.toList filter :=
    fun filter => readWithin?_iff_derivesQuery
  refine ⟨agree, ?_, ?_⟩
  · simp only [← agree, Option.eq_none_iff_forall_ne_some, ne_eq]
  · intro left right first second
    rw [← agree] at first second
    exact Option.some.inj (first.symm.trans second)

end CatalogQuery.Query
