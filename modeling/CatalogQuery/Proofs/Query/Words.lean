import CatalogQuery.Query.Reader

/-! # Words of a query

What the smallest parts of a query look like, said without reading them: `Blanks`, `Keyword`, `Key`
and `Value` relate a text to the rest of it behind such a part. A text may have several rests behind
its blanks, and it has at most one behind a part of any other kind.

The readers of `Query.Token` find exactly these parts (`keyword?_eq_some_iff`, `key?_eq_some_iff`,
`value?_eq_some_iff`).
-/

namespace CatalogQuery.Query

/-! ## Runs of characters of a class -/

/-- The text is empty or begins outside the class. -/
def Stops (p : Char → Bool) (s : List Char) : Prop := ∀ c ∈ s.head?, p c = false

@[simp] theorem stops_nil {p : Char → Bool} : Stops p [] := by simp [Stops]

@[simp] theorem stops_cons {p : Char → Bool} {c : Char} {s : List Char} :
    Stops p (c :: s) ↔ p c = false := by simp [Stops]

theorem stops_dropWhile (p : Char → Bool) (s : List Char) : Stops p (s.dropWhile p) := by
  intro c member
  have head := List.head?_dropWhile_not p s
  rw [Option.mem_def.mp member] at head
  simpa using head

section
variable {p : Char → Bool} {word rest : List Char}

theorem takeWhile_of_stops (inside : ∀ c ∈ word, p c = true) (stops : Stops p rest) :
    (word ++ rest).takeWhile p = word := by
  rw [List.takeWhile_append_of_pos inside]
  cases rest with
  | nil => simp
  | cons c rest => simp [stops_cons.mp stops]

theorem dropWhile_of_stops (inside : ∀ c ∈ word, p c = true) (stops : Stops p rest) :
    (word ++ rest).dropWhile p = rest := by
  rw [List.dropWhile_append_of_pos inside]
  cases rest with
  | nil => rfl
  | cons c rest => simp [stops_cons.mp stops]

/-- A text has one longest run of characters of a class at its beginning. -/
theorem eq_of_runs {other behind : List Char} (inside : ∀ c ∈ word, p c = true)
    (stops : Stops p rest) (otherInside : ∀ c ∈ other, p c = true) (otherStops : Stops p behind)
    (split : word ++ rest = other ++ behind) : word = other ∧ rest = behind := by
  have sameWord := congrArg (List.takeWhile p) split
  have sameRest := congrArg (List.dropWhile p) split
  rw [takeWhile_of_stops inside stops, takeWhile_of_stops otherInside otherStops] at sameWord
  rw [dropWhile_of_stops inside stops, dropWhile_of_stops otherInside otherStops] at sameRest
  exact ⟨sameWord, sameRest⟩

end

/-! ## Classes of characters -/

theorem isBlank_of_ascii_key : ∀ n < 128, isKeyChar (Char.ofNat n) = true →
    Text.isBlank (Char.ofNat n) = false := by
  decide

theorem isBlank_of_isKeyChar {c : Char} (key : isKeyChar c = true) : Text.isBlank c = false := by
  have blank := isBlank_of_ascii_key c.toNat (toNat_lt_of_isKeyChar key)
  rw [Char.ofNat_toNat] at blank
  exact blank key

theorem isKeyChar_of_isBlank {c : Char} (blank : Text.isBlank c = true) : isKeyChar c = false := by
  cases key : isKeyChar c with
  | false => rfl
  | true => rw [isBlank_of_isKeyChar key] at blank; contradiction

theorem isKeyChar_of_isUpper {c : Char} (capital : c.isUpper = true) : isKeyChar c = true := by
  have letter : c.isAlpha = true := Bool.or_eq_true_iff.mpr (.inl capital)
  have alphanumeric : c.isAlphanum = true := Bool.or_eq_true_iff.mpr (.inl letter)
  simp [isKeyChar, alphanumeric]

theorem isKeyChar_of_toLower {c : Char} (key : isKeyChar c.toLower = true) : isKeyChar c = true := by
  unfold Char.toLower at key
  split at key
  · next upper => exact isKeyChar_of_isUpper (isUpper_of_le upper)
  · exact key

/-! ## Blanks -/

/-- The rest stands behind any number of blanks. -/
def Blanks (s rest : List Char) : Prop :=
  ∃ blanks, (∀ c ∈ blanks, Text.isBlank c = true) ∧ s = blanks ++ rest

theorem Blanks.refl (s : List Char) : Blanks s s := ⟨[], by simp, rfl⟩

theorem blanks_skipBlanks (s : List Char) : Blanks s (Text.skipBlanks s) :=
  ⟨s.takeWhile Text.isBlank, List.all_eq_true.mp List.all_takeWhile,
    List.takeWhile_append_dropWhile.symm⟩

theorem Blanks.skipBlanks_eq {s rest : List Char} (blanks : Blanks s rest)
    (stops : Stops Text.isBlank rest) : Text.skipBlanks s = rest := by
  obtain ⟨taken, inside, rfl⟩ := blanks
  exact dropWhile_of_stops inside stops

theorem skipBlanks_of_stops {s : List Char} (stops : Stops Text.isBlank s) :
    Text.skipBlanks s = s :=
  (Blanks.refl s).skipBlanks_eq stops

theorem Blanks.stops_isKeyChar {s rest : List Char} (blanks : Blanks s rest)
    (stops : Stops isKeyChar rest) : Stops isKeyChar s := by
  obtain ⟨taken, inside, rfl⟩ := blanks
  cases taken with
  | nil => exact stops
  | cons c taken => exact stops_cons.mpr (isKeyChar_of_isBlank (inside c List.mem_cons_self))

theorem Blanks.length_le {s rest : List Char} (blanks : Blanks s rest) :
    rest.length ≤ s.length := by
  obtain ⟨taken, -, rfl⟩ := blanks
  simp

/-! ## Keywords -/

/-- The word could be a key. -/
structure Lettered (word : List Char) : Prop where
  nonempty : word ≠ []
  letters : ∀ c ∈ word, isKeyChar c = true

theorem lettered_or : Lettered ['o', 'r'] := ⟨nofun, List.all_eq_true.mp rfl⟩

theorem lettered_and : Lettered ['a', 'n', 'd'] := ⟨nofun, List.all_eq_true.mp rfl⟩

theorem lettered_not : Lettered ['n', 'o', 't'] := ⟨nofun, List.all_eq_true.mp rfl⟩

/-- The rest stands behind the letters of the word, each in upper or lower case, and begins with a
blank or an opening bracket. -/
def Keyword (word s rest : List Char) : Prop :=
  ∃ letters, letters.map Char.toLower = word ∧ s = letters ++ rest ∧
    ∃ c behind, rest = c :: behind ∧ (Text.isBlank c = true ∨ c = '(')

theorem dropWord?_eq_some_iff {word s rest : List Char} :
    dropWord? word s = some rest ↔
      ∃ letters, letters.map Char.toLower = word ∧ s = letters ++ rest := by
  induction word generalizing s with
  | nil => simp [dropWord?, eq_comm]
  | cons w word ih =>
    cases s with
    | nil =>
      simp only [dropWord?, reduceCtorEq, false_iff, not_exists, not_and]
      intro letters map split
      simp_all
    | cons c s =>
      simp only [dropWord?, beq_iff_eq]
      constructor
      · intro dropped
        split at dropped
        · next same =>
          obtain ⟨letters, map, split⟩ := ih.mp dropped
          exact ⟨c :: letters, by simp [same, map], by simp [split]⟩
        · contradiction
      · rintro ⟨letters, map, split⟩
        cases letters with
        | nil => simp at map
        | cons letter letters =>
          simp only [List.map_cons, List.cons.injEq, List.cons_append] at map split
          obtain ⟨same, map⟩ := map
          obtain ⟨rfl, split⟩ := split
          rw [if_pos same]
          exact ih.mpr ⟨letters, map, split⟩

theorem keyword?_eq_some_iff {word s rest : List Char} :
    keyword? word s = some rest ↔ Keyword word s rest := by
  unfold keyword? Keyword
  constructor
  · intro read
    split at read
    · next c behind dropped =>
      obtain ⟨letters, map, split⟩ := dropWord?_eq_some_iff.mp dropped
      split at read
      · next ends =>
        cases read
        exact ⟨letters, map, split, c, behind, rfl, by simpa using ends⟩
      · contradiction
    · contradiction
  · rintro ⟨letters, map, split, c, behind, rfl, ends⟩
    rw [dropWord?_eq_some_iff.mpr ⟨letters, map, split⟩]
    exact if_pos (by simpa using ends)

theorem Keyword.stops {word s rest : List Char} (keyword : Keyword word s rest) :
    Stops isKeyChar rest := by
  obtain ⟨letters, -, -, c, behind, rfl, blank | rfl⟩ := keyword
  · simpa using isKeyChar_of_isBlank blank
  · simp; decide

theorem Keyword.split {word s rest : List Char} (keyword : Keyword word s rest)
    (lettered : Lettered word) :
    ∃ taken, (∀ c ∈ taken, isKeyChar c = true) ∧ taken.map Char.toLower = word ∧
      s = taken ++ rest := by
  obtain ⟨taken, rfl, split, -⟩ := keyword
  refine ⟨taken, fun c member => ?_, rfl, split⟩
  exact isKeyChar_of_toLower (lettered.letters _ (List.mem_map_of_mem member))

theorem Keyword.begins {word s rest : List Char} (keyword : Keyword word s rest)
    (lettered : Lettered word) : ∃ c tail, s = c :: tail ∧ isKeyChar c = true := by
  obtain ⟨taken, inside, rfl, rfl⟩ := keyword.split lettered
  cases taken with
  | nil => exact absurd rfl lettered.nonempty
  | cons c taken => exact ⟨c, _, rfl, inside c List.mem_cons_self⟩

theorem Keyword.stops_isBlank {word s rest : List Char} (keyword : Keyword word s rest)
    (lettered : Lettered word) : Stops Text.isBlank s := by
  obtain ⟨c, tail, rfl, key⟩ := keyword.begins lettered
  exact stops_cons.mpr (isBlank_of_isKeyChar key)

theorem Keyword.eq_of_split {word s rest taken behind : List Char} (keyword : Keyword word s rest)
    (lettered : Lettered word) (inside : ∀ c ∈ taken, isKeyChar c = true)
    (stops : Stops isKeyChar behind) (split : s = taken ++ behind) :
    taken.map Char.toLower = word ∧ behind = rest := by
  obtain ⟨own, ownInside, rfl, rfl⟩ := keyword.split lettered
  obtain ⟨rfl, rfl⟩ := eq_of_runs ownInside keyword.stops inside stops split
  exact ⟨rfl, rfl⟩

theorem Keyword.unique {word other s rest behind : List Char} (keyword : Keyword word s rest)
    (second : Keyword other s behind) (lettered : Lettered word) (otherLettered : Lettered other) :
    word = other ∧ rest = behind := by
  obtain ⟨taken, inside, lower, split⟩ := second.split otherLettered
  obtain ⟨sameWord, sameRest⟩ := keyword.eq_of_split lettered inside second.stops split
  exact ⟨sameWord.symm.trans lower, sameRest.symm⟩

theorem Keyword.length_le {word s rest : List Char} (keyword : Keyword word s rest) :
    rest.length ≤ s.length := by
  obtain ⟨letters, -, rfl, -⟩ := keyword
  simp

/-! ## Keys -/

/-- The rest stands behind a word of key characters, which is the key in any letter case. -/
def Key (keys : KeySet) (s : List Char) (key : String) (rest : List Char) : Prop :=
  ∃ word, word ≠ [] ∧ (∀ c ∈ word, isKeyChar c = true) ∧ s = word ++ rest ∧
    Text.lowercase (String.ofList word) = key ∧ key ∈ keys.keys

theorem Key.begins {keys : KeySet} {s rest : List Char} {key : String}
    (derived : Key keys s key rest) : ∃ c tail, s = c :: tail ∧ isKeyChar c = true := by
  obtain ⟨word, nonempty, inside, rfl, -⟩ := derived
  cases word with
  | nil => contradiction
  | cons c word => exact ⟨c, _, rfl, inside c List.mem_cons_self⟩

theorem Key.length_le {keys : KeySet} {s rest : List Char} {key : String}
    (derived : Key keys s key rest) : rest.length ≤ s.length := by
  obtain ⟨word, -, -, rfl, -⟩ := derived
  simp

theorem key?_eq_some_iff {keys : KeySet} {s rest : List Char} {key : String} :
    key? keys s = some (key, rest) ↔ Key keys s key rest ∧ Stops isKeyChar rest := by
  simp only [key?, Key]
  constructor
  · intro read
    split at read
    · next known =>
      cases read
      have inside := List.all_eq_true.mp (List.all_takeWhile (p := isKeyChar) (l := s))
      refine ⟨⟨_, ?_, inside, List.takeWhile_append_dropWhile.symm, rfl, KeySet.contains_iff.mp known⟩,
        stops_dropWhile _ s⟩
      intro empty
      rw [empty] at known
      exact (KeySet.isLowercaseKey_of_mem (KeySet.contains_iff.mp known)).1.1 (by decide)
    · contradiction
  · rintro ⟨⟨word, -, inside, rfl, rfl, known⟩, stops⟩
    rw [takeWhile_of_stops inside stops, dropWhile_of_stops inside stops]
    exact if_pos (KeySet.contains_iff.mpr known)

/-! ## Values -/

/-- The rest stands behind a value, which is quoted or ends where a bare value has to. -/
inductive Value : List Char → String → List Char → Prop
  | quoted {value rest : List Char} : value ≠ [] → '"' ∉ value →
      Value ('"' :: (value ++ '"' :: rest)) (String.ofList value) rest
  | bare {value rest : List Char} : value ≠ [] → (∀ c ∈ value, isBareChar c = true) →
      Stops isBareChar rest → Value (value ++ rest) (String.ofList value) rest

theorem isQuotedChar_of_quoteless {text : List Char} (quoteless : '"' ∉ text) :
    ∀ c ∈ text, isQuotedChar c = true := by
  intro c member
  simp only [isQuotedChar, bne_iff_ne, ne_eq]
  rintro rfl
  exact quoteless member

/-- Neither value has a quote, so both end at the first one. -/
theorem eq_of_quoteless_split {value other s t : List Char} (quoteless : '"' ∉ value)
    (otherQuoteless : '"' ∉ other) (split : value ++ '"' :: s = other ++ '"' :: t) :
    value = other ∧ s = t := by
  have stops : ∀ rest : List Char, Stops isQuotedChar ('"' :: rest) := fun _ => stops_cons.mpr rfl
  obtain ⟨same, rests⟩ := eq_of_runs (isQuotedChar_of_quoteless quoteless) (stops s)
    (isQuotedChar_of_quoteless otherQuoteless) (stops t) split
  exact ⟨same, (List.cons.inj rests).2⟩

theorem quotedValue?_eq_some_iff {s rest : List Char} {value : String} :
    quotedValue? s = some (value, rest) ↔
      ∃ inside, inside ≠ [] ∧ '"' ∉ inside ∧ s = inside ++ '"' :: rest ∧ String.ofList inside = value := by
  unfold quotedValue?
  constructor
  · intro read
    split at read
    · contradiction
    · next behind closes nonempty =>
      cases read
      refine ⟨_, nonempty, ?_, ?_, rfl⟩
      · intro member
        have inside := List.all_eq_true.mp List.all_takeWhile _ member
        simp [isQuotedChar] at inside
      · rw [← closes, List.takeWhile_append_dropWhile]
    · contradiction
  · rintro ⟨inside, nonempty, quoteless, rfl, rfl⟩
    have unquoted := isQuotedChar_of_quoteless quoteless
    have stops : Stops isQuotedChar ('"' :: rest) := by simp [isQuotedChar]
    rw [takeWhile_of_stops unquoted stops, dropWhile_of_stops unquoted stops]
    cases inside with
    | nil => contradiction
    | cons c inside => rfl

theorem bareValue?_eq_some_iff {s rest : List Char} {value : String} :
    bareValue? s = some (value, rest) ↔
      ∃ word, word ≠ [] ∧ (∀ c ∈ word, isBareChar c = true) ∧ Stops isBareChar rest ∧
        s = word ++ rest ∧ String.ofList word = value := by
  unfold bareValue?
  constructor
  · intro read
    split at read
    · contradiction
    · next nonempty =>
      cases read
      exact ⟨_, nonempty, List.all_eq_true.mp List.all_takeWhile, stops_dropWhile _ s,
        List.takeWhile_append_dropWhile.symm, rfl⟩
  · rintro ⟨word, nonempty, inside, stops, rfl, rfl⟩
    rw [takeWhile_of_stops inside stops, dropWhile_of_stops inside stops]
    cases word with
    | nil => contradiction
    | cons c word => rfl

theorem value?_eq_some_iff {s rest : List Char} {value : String} :
    value? s = some (value, rest) ↔ Value s value rest := by
  unfold value?
  constructor
  · intro read
    split at read
    · obtain ⟨inside, nonempty, quoteless, rfl, rfl⟩ := quotedValue?_eq_some_iff.mp read
      exact .quoted nonempty quoteless
    · obtain ⟨word, nonempty, inside, stops, rfl, rfl⟩ := bareValue?_eq_some_iff.mp read
      exact .bare nonempty inside stops
  · intro derived
    cases derived with
    | quoted nonempty quoteless =>
      exact quotedValue?_eq_some_iff.mpr ⟨_, nonempty, quoteless, rfl, rfl⟩
    | @bare word _ nonempty inside stops =>
      split
      · next quoted =>
        cases word with
        | nil => contradiction
        | cons c word =>
          obtain ⟨rfl, -⟩ := List.cons.inj quoted
          simp [isBareChar] at inside
      · exact bareValue?_eq_some_iff.mpr ⟨_, nonempty, inside, stops, rfl, rfl⟩

theorem Value.stops {s rest : List Char} {value : String} (derived : Value s value rest) :
    Stops Text.isBlank s := by
  cases derived with
  | quoted _ _ => simp; decide
  | @bare word _ nonempty inside _ =>
    cases word with
    | nil => contradiction
    | cons c word =>
      have bare := inside c List.mem_cons_self
      simp only [isBareChar, Bool.and_eq_true, Bool.not_eq_true'] at bare
      simpa using bare.1.1.1

theorem Value.length_lt {s rest : List Char} {value : String} (derived : Value s value rest) :
    rest.length < s.length := by
  cases derived with
  | quoted _ _ => simp; omega
  | @bare word _ nonempty _ _ =>
    have := List.length_pos_iff.mpr nonempty
    simp [this]

/-! ## Words in front of more text -/

section
variable {s rest : List Char}

theorem Stops.append {p : Char → Bool} {tail : List Char} (stops : Stops p rest)
    (tailStops : Stops p tail) : Stops p (rest ++ tail) := by
  cases rest with
  | nil => exact tailStops
  | cons c rest => exact stops_cons.mpr (stops_cons.mp stops)

theorem Blanks.append (blanks : Blanks s rest) (tail : List Char) :
    Blanks (s ++ tail) (rest ++ tail) := by
  obtain ⟨taken, inside, rfl⟩ := blanks
  exact ⟨taken, inside, List.append_assoc _ _ _⟩

theorem Blanks.trans {middle : List Char} (first : Blanks s middle) (second : Blanks middle rest) :
    Blanks s rest := by
  obtain ⟨taken, inside, rfl⟩ := first
  obtain ⟨more, moreInside, rfl⟩ := second
  exact ⟨taken ++ more, List.forall_mem_append.mpr ⟨inside, moreInside⟩,
    (List.append_assoc _ _ _).symm⟩

theorem Keyword.append {word : List Char} (keyword : Keyword word s rest) (tail : List Char) :
    Keyword word (s ++ tail) (rest ++ tail) := by
  obtain ⟨letters, map, rfl, c, behind, rfl, ends⟩ := keyword
  exact ⟨letters, map, List.append_assoc _ _ _, c, behind ++ tail, rfl, ends⟩

theorem Key.append {keys : KeySet} {key : String} (derived : Key keys s key rest)
    (tail : List Char) : Key keys (s ++ tail) key (rest ++ tail) := by
  obtain ⟨word, nonempty, inside, rfl, spelling, known⟩ := derived
  exact ⟨word, nonempty, inside, List.append_assoc _ _ _, spelling, known⟩

theorem Value.append {value : String} {tail : List Char} (derived : Value s value rest)
    (stops : Stops isBareChar tail) : Value (s ++ tail) value (rest ++ tail) := by
  cases derived with
  | quoted nonempty quoteless =>
    simp only [List.cons_append, List.append_assoc]
    exact .quoted nonempty quoteless
  | bare nonempty inside ends =>
    rw [List.append_assoc]
    exact .bare nonempty inside (ends.append stops)

end

end CatalogQuery.Query
