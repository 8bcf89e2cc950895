import CatalogQuery.Proofs.Query.Brackets
import CatalogQuery.Proofs.Query.Places

/-! # The spacing of a query

Blanks outside of quotes only separate words. `SameWords` relates texts that agree in their words
and brackets, and it is a simulation (`simulation_sameWords`), so such texts are read alike, or
refused alike.
-/

namespace CatalogQuery.Query

/-! ## Texts with the same words -/

def AllBlank (s : List Char) : Prop := ∀ c ∈ s, Text.isBlank c = true

/-- From a place outside of quotes on, the texts have the same words and brackets in the same order.
Words are separated by one blank or more, and blanks beside a bracket do not count. -/
inductive SameWords : List Char → List Char → Prop
  | refl (s : List Char) : SameWords s s
  | ending {s t : List Char} : Blanks s [] → Blanks t [] → SameWords s t
  | gap {c d : Char} {s t next other : List Char} : Text.isBlank c = true → Text.isBlank d = true →
      Blanks s next → Blanks t other → SameWords next other → SameWords (c :: s) (d :: t)
  | bracket {c : Char} {s t inside within next other : List Char} : isBracket c = true →
      Blanks s (c :: inside) → Blanks t (c :: within) → Blanks inside next → Blanks within other →
      SameWords next other → SameWords s t
  | bare {c : Char} {s t : List Char} : isBareChar c = true → SameWords s t →
      SameWords (c :: s) (c :: t)
  | quoted {value s t : List Char} : '"' ∉ value → SameWords s t →
      SameWords ('"' :: (value ++ '"' :: s)) ('"' :: (value ++ '"' :: t))

/-- The texts have the same words, whatever blanks stand in front of them. -/
def Respaced (s t : List Char) : Prop := SameWords (Text.skipBlanks s) (Text.skipBlanks t)

section
variable {c : Char} {s t rest next : List Char}

theorem isBareChar_of_isBlank (blank : Text.isBlank c = true) : isBareChar c = false := by
  simp [isBareChar, blank]

theorem isBlank_of_isBareChar (bare : isBareChar c = true) : Text.isBlank c = false := by
  cases blank : Text.isBlank c with
  | false => rfl
  | true => rw [isBareChar_of_isBlank blank] at bare; contradiction

theorem Blanks.skipBlanks_congr (blanks : Blanks s rest) :
    Text.skipBlanks s = Text.skipBlanks rest := by
  obtain ⟨taken, inside, rfl⟩ := blanks
  exact List.dropWhile_append_of_pos inside

theorem Blanks.eq_of_stops (blanks : Blanks s rest) (stops : Stops Text.isBlank s) : rest = s := by
  obtain ⟨taken, inside, rfl⟩ := blanks
  cases taken with
  | nil => rfl
  | cons c taken =>
    have blank := inside c List.mem_cons_self
    rw [stops_cons.mp stops] at blank
    contradiction

theorem SameWords.symm (same : SameWords s t) : SameWords t s := by
  induction same with
  | refl s => exact .refl s
  | ending first second => exact .ending second first
  | gap first second blanks others _ ih => exact .gap second first others blanks ih
  | bracket bracket first second blanks others _ ih =>
    exact .bracket bracket second first others blanks ih
  | bare bare _ ih => exact .bare bare ih
  | quoted quoteless _ ih => exact .quoted quoteless ih

theorem SameWords.respaced (same : SameWords s t) : Respaced s t := by
  unfold Respaced
  induction same with
  | refl s => exact .refl _
  | ending first second =>
    rw [first.skipBlanks_eq stops_nil, second.skipBlanks_eq stops_nil]
    exact .refl []
  | gap first second blanks others _ ih =>
    simp only [Text.skipBlanks, List.dropWhile_cons, first, second, if_true]
    have left := blanks.skipBlanks_congr
    have right := others.skipBlanks_congr
    simp only [Text.skipBlanks] at left right ih
    rw [left, right]
    exact ih
  | bracket bracket first second blanks others same _ =>
    have stops := isBlank_of_isBracket bracket
    rw [first.skipBlanks_eq (stops_cons.mpr stops), second.skipBlanks_eq (stops_cons.mpr stops)]
    exact .bracket bracket (.refl _) (.refl _) blanks others same
  | bare bare same _ =>
    have stops := isBlank_of_isBareChar bare
    rw [skipBlanks_of_stops (stops_cons.mpr stops), skipBlanks_of_stops (stops_cons.mpr stops)]
    exact .bare bare same
  | quoted quoteless same _ => exact .quoted quoteless same

/-! ## Words are followed -/

theorem SameWords.skipBlanks_eq_nil (same : SameWords [] t) : Text.skipBlanks t = [] := by
  cases same with
  | refl => rfl
  | ending _ blanks => exact blanks.skipBlanks_eq stops_nil
  | bracket _ blanks _ _ _ _ => exact absurd (blanks.eq_of_stops stops_nil) (List.cons_ne_nil _ _)

theorem SameWords.follow_bracket (bracket : isBracket c = true) (same : SameWords (c :: s) t)
    (stops : Stops Text.isBlank t) : ∃ behind, t = c :: behind ∧ Respaced s behind := by
  have nonblank := isBlank_of_isBracket bracket
  have begins : Stops Text.isBlank (c :: s) := stops_cons.mpr nonblank
  cases same with
  | refl => exact ⟨s, rfl, .refl _⟩
  | ending blanks _ => exact absurd (blanks.eq_of_stops begins) (List.cons_ne_nil _ _).symm
  | gap blank _ _ _ _ => rw [nonblank] at blank; contradiction
  | bracket _ first second blanks others same =>
    obtain ⟨rfl, rfl⟩ := List.cons.inj (first.eq_of_stops begins)
    have reached := second.eq_of_stops stops
    refine ⟨_, reached.symm, ?_⟩
    have respaced := same.respaced
    rwa [Respaced, ← blanks.skipBlanks_congr, ← others.skipBlanks_congr] at respaced
  | bare bare _ => rw [isBareChar_of_isBracket bracket] at bare; contradiction
  | quoted _ _ => contradiction

theorem SameWords.follow_bare (bare : isBareChar c = true) (same : SameWords (c :: s) t) :
    ∃ behind, t = c :: behind ∧ SameWords s behind := by
  have nonblank := isBlank_of_isBareChar bare
  have begins : Stops Text.isBlank (c :: s) := stops_cons.mpr nonblank
  cases same with
  | refl => exact ⟨s, rfl, .refl s⟩
  | ending blanks _ => exact absurd (blanks.eq_of_stops begins) (List.cons_ne_nil _ _).symm
  | gap blank _ _ _ _ => rw [nonblank] at blank; contradiction
  | bracket bracket blanks _ _ _ _ =>
    obtain ⟨rfl, -⟩ := List.cons.inj (blanks.eq_of_stops begins)
    rw [isBareChar_of_isBracket bracket] at bare
    contradiction
  | bare _ same => exact ⟨_, rfl, same⟩
  | quoted _ _ => contradiction

theorem SameWords.follow_word {word : List Char} (inside : ∀ c ∈ word, isBareChar c = true)
    (same : SameWords (word ++ s) t) : ∃ behind, t = word ++ behind ∧ SameWords s behind := by
  induction word generalizing t with
  | nil => exact ⟨t, rfl, same⟩
  | cons c word ih =>
    obtain ⟨bare, more⟩ := List.forall_mem_cons.mp inside
    rw [List.cons_append] at same
    obtain ⟨tail, rfl, follows⟩ := same.follow_bare bare
    obtain ⟨behind, rfl, ends⟩ := ih more follows
    exact ⟨behind, rfl, ends⟩

theorem SameWords.follow_quoted {value : List Char} (quoteless : '"' ∉ value)
    (same : SameWords ('"' :: (value ++ '"' :: s)) t) :
    ∃ behind, t = '"' :: (value ++ '"' :: behind) ∧ SameWords s behind := by
  have begins : Stops Text.isBlank ('"' :: (value ++ '"' :: s)) := stops_cons.mpr (by decide)
  generalize whole : '"' :: (value ++ '"' :: s) = text at same begins
  cases same with
  | refl => exact ⟨s, whole.symm, .refl s⟩
  | ending blanks _ =>
    have nothing := blanks.eq_of_stops begins
    rw [← whole] at nothing
    contradiction
  | gap blank _ _ _ _ => rw [stops_cons.mp begins] at blank; contradiction
  | bracket bracket blanks _ _ _ _ =>
    have reached := blanks.eq_of_stops begins
    rw [← whole] at reached
    obtain ⟨rfl, -⟩ := List.cons.inj reached
    contradiction
  | bare bare _ =>
    obtain ⟨rfl, -⟩ := List.cons.inj whole
    contradiction
  | @quoted other _ behind otherQuoteless same =>
    obtain ⟨-, split⟩ := List.cons.inj whole
    obtain ⟨rfl, rfl⟩ := eq_of_quoteless_split quoteless otherQuoteless split
    exact ⟨behind, rfl, same⟩

/-- Where a bare value ends in one text, it ends in the other. -/
theorem SameWords.stops_isBareChar (same : SameWords s t) (stops : Stops isBareChar s) :
    Stops isBareChar t := by
  have blanks_stops : ∀ {t rest : List Char}, Blanks t rest → Stops isBareChar rest →
      Stops isBareChar t := by
    rintro t rest ⟨taken, inside, rfl⟩ stops
    cases taken with
    | nil => exact stops
    | cons c taken =>
      exact stops_cons.mpr (isBareChar_of_isBlank (inside c List.mem_cons_self))
  cases same with
  | refl => exact stops
  | ending _ blanks => exact blanks_stops blanks stops_nil
  | gap _ blank _ _ _ => exact stops_cons.mpr (isBareChar_of_isBlank blank)
  | bracket bracket _ blanks _ _ _ =>
    exact blanks_stops blanks (stops_cons.mpr (isBareChar_of_isBracket bracket))
  | bare bare _ => rw [stops_cons.mp stops] at bare; contradiction
  | quoted _ _ => exact stops_cons.mpr (by decide)

theorem isBareChar_of_isKeyChar {c : Char} (key : isKeyChar c = true) : isBareChar c = true := by
  simp only [isBareChar, isBlank_of_isKeyChar key, Bool.and_eq_true, bne_iff_ne, ne_eq,
    Bool.not_false, true_and]
  refine ⟨⟨?_, ?_⟩, ?_⟩
  all_goals
    rintro rfl
    exact absurd key (by decide)

/-- What ends a keyword in front of an operand ends it in the other text too. -/
theorem SameWords.follow_boundary (same : SameWords (c :: s) t)
    (ends : Text.isBlank c = true ∨ c = '(')
    (opens : ¬ Stops opensOperand (Text.skipBlanks (c :: s))) :
    ∃ d tail, t = d :: tail ∧ (Text.isBlank d = true ∨ d = '(') := by
  cases same with
  | refl => exact ⟨c, s, rfl, ends⟩
  | ending blanks _ =>
    rw [blanks.skipBlanks_eq stops_nil] at opens
    exact absurd stops_nil opens
  | gap _ blank _ _ _ => exact ⟨_, _, rfl, .inl blank⟩
  | @bracket b _ _ _ _ _ _ bracket first second _ _ _ =>
    have stops := isBlank_of_isBracket bracket
    rw [first.skipBlanks_eq (stops_cons.mpr stops), stops_cons, Bool.not_eq_false] at opens
    obtain ⟨taken, inside, rfl⟩ := second
    cases taken with
    | nil =>
      refine ⟨b, _, rfl, .inr ?_⟩
      simp only [isBracket, Bool.or_eq_true, beq_iff_eq] at bracket
      rcases bracket with rfl | rfl
      · rfl
      · exact absurd opens (by decide)
    | cons d taken => exact ⟨d, _, rfl, .inl (inside d List.mem_cons_self)⟩
  | bare bare _ =>
    rcases ends with blank | rfl
    · rw [isBareChar_of_isBlank blank] at bare
      contradiction
    · exact absurd bare (by decide)
  | quoted _ _ =>
    rcases ends with blank | bracket
    · exact absurd blank (by decide)
    · exact absurd bracket (by decide)

theorem SameWords.follow_keyword {word : List Char} (operator : word ∈ operators)
    (same : SameWords s t) (keyword : Keyword word s rest)
    (opens : ¬ Stops opensOperand (Text.skipBlanks rest)) :
    ∃ behind, Keyword word t behind ∧ SameWords rest behind := by
  obtain ⟨letters, inside, lower, rfl⟩ := keyword.split (lettered_of_mem operator)
  obtain ⟨behind, rfl, follows⟩ :=
    same.follow_word fun c member => isBareChar_of_isKeyChar (inside c member)
  obtain ⟨-, -, -, c, tail, rfl, ends⟩ := keyword
  exact ⟨behind, ⟨letters, lower, rfl, follows.follow_boundary ends opens⟩, follows⟩

theorem SameWords.follow_value {value : String} (same : SameWords s t)
    (isValue : Value s value rest) : ∃ behind, Value t value behind ∧ SameWords rest behind := by
  cases isValue with
  | quoted nonempty quoteless =>
    obtain ⟨behind, rfl, follows⟩ := same.follow_quoted quoteless
    exact ⟨behind, .quoted nonempty quoteless, follows⟩
  | bare nonempty inside stops =>
    obtain ⟨behind, rfl, follows⟩ := same.follow_word inside
    exact ⟨behind, .bare nonempty inside (follows.stops_isBareChar stops), follows⟩

theorem SameWords.follow_literal {keys : KeySet} {key value : String} {place : List Char}
    (same : SameWords s t) (literal : LiteralAt keys s key place value rest) :
    ∃ other behind, LiteralAt keys t key other value behind ∧ SameWords rest behind := by
  obtain ⟨colon, after, ⟨word, nonempty, inside, rfl, spelling, known⟩, blanks, more, isValue⟩ :=
    literal
  obtain ⟨tail, rfl, follows⟩ :=
    same.follow_word fun c member => isBareChar_of_isKeyChar (inside c member)
  have colons := follows.respaced
  rw [Respaced, blanks.skipBlanks_eq (stops_cons.mpr (by decide))] at colons
  obtain ⟨within, reached, follows⟩ := colons.follow_bare (by decide)
  have values := follows.respaced
  rw [Respaced, more.skipBlanks_eq isValue.stops] at values
  obtain ⟨behind, isOther, ends⟩ := values.follow_value isValue
  have before := blanks_skipBlanks tail
  rw [reached] at before
  exact ⟨_, behind, ⟨tail, within, ⟨word, nonempty, inside, rfl, spelling, known⟩, before,
    blanks_skipBlanks within, isOther⟩, ends⟩

theorem simulation_sameWords (keys : KeySet) : Simulation keys Respaced Eq where
  blanks same := by
    rw [Respaced, skipBlanks_skipBlanks, skipBlanks_skipBlanks]
    exact same
  ending same := by
    have nothing := SameWords.skipBlanks_eq_nil same
    rwa [skipBlanks_skipBlanks] at nothing
  bracket bracket same stops := by
    rw [Respaced, skipBlanks_of_stops stops,
      skipBlanks_of_stops (stops_cons.mpr (isBlank_of_isBracket bracket))] at same
    exact same.follow_bracket bracket stops
  keyword operator same stops keyword opens := by
    rw [Respaced, skipBlanks_of_stops stops,
      skipBlanks_of_stops (keyword.stops_isBlank (lettered_of_mem operator))] at same
    obtain ⟨behind, found, follows⟩ := same.follow_keyword operator keyword opens
    exact ⟨behind, found, follows.respaced⟩
  literal {s t key place value rest} same stops literal := by
    obtain ⟨c, tail, rfl, isKey⟩ := literal.begins
    rw [Respaced, skipBlanks_of_stops stops,
      skipBlanks_of_stops (stops_cons.mpr (isBlank_of_isKeyChar isKey))] at same
    obtain ⟨other, behind, found, follows⟩ := same.follow_literal literal
    exact ⟨other, value, behind, found, rfl, follows.respaced⟩

end

end CatalogQuery.Query
