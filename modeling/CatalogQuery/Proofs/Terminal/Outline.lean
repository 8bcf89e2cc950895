import CatalogQuery.Proofs.Filter.Size
import CatalogQuery.Proofs.Query.Literals
import CatalogQuery.Terminal.Program

/-! # What the outline shows

The outline of a filter lists its nodes, each one above what it joins, and has no brackets. Its text
determines the filter all the same (`outline_shows_filter`): a line tells which kind of node it
stands for, and the kind tells how many parts follow. The indentation is not needed for that; it
shows how deep the filter is.
-/

namespace CatalogQuery

open Query (Stops stops_cons eq_of_runs takeWhile_of_stops)

/-- Its literals have proper keys, and no line feeds in their values. -/
def Filter.Listable (filter : Filter) : Prop :=
  ∀ literal ∈ filter.literals, IsKey literal.1 ∧ '\n' ∉ literal.2.toList

instance (filter : Filter) : Decidable filter.Listable :=
  inferInstanceAs
    (Decidable (∀ literal ∈ filter.literals, IsKey literal.1 ∧ '\n' ∉ literal.2.toList))

theorem Filter.Listable.literal {key value : String}
    (listable : (Filter.literal key value).Listable) : IsKey key ∧ '\n' ∉ value.toList :=
  listable (key, value) List.mem_cons_self

theorem Filter.Listable.part {filter : Filter} (listable : filter.Listable) :
    ∀ part ∈ filter.parts, part.Listable := by
  cases filter with
  | literal key value => exact nofun
  | and left right | or left right =>
    obtain ⟨leftListable, rightListable⟩ := List.forall_mem_append.mp listable
    simpa [parts] using ⟨leftListable, rightListable⟩
  | not child =>
    have childListable : child.Listable := listable
    simpa [parts] using childListable

namespace Terminal

/-! ## Lines of a text -/

/-- The lines of a text, without the line feed that ends each of them. -/
def linesOf (text : String) : List String :=
  (text.toList.splitOn '\n').dropLast.map String.ofList

theorem toList_unlines_cons (line : String) (lines : List String) :
    (Program.unlines (line :: lines)).toList =
      line.toList ++ '\n' :: (Program.unlines lines).toList := by
  simp [Program.unlines]

theorem splitOn_unlines {lines : List String} (whole : ∀ line ∈ lines, '\n' ∉ line.toList) :
    (Program.unlines lines).toList.splitOn '\n' = lines.map String.toList ++ [[]] := by
  induction lines with
  | nil => simp [Program.unlines]
  | cons line lines ih =>
    obtain ⟨first, more⟩ := List.forall_mem_cons.mp whole
    rw [toList_unlines_cons, List.splitOn_append_cons_self_of_not_mem first, ih more]
    rfl

theorem linesOf_unlines {lines : List String} (whole : ∀ line ∈ lines, '\n' ∉ line.toList) :
    linesOf (Program.unlines lines) = lines := by
  simp [linesOf, splitOn_unlines whole, Function.comp_def]

/-- The number of spaces that the line begins with. -/
def indentation (line : String) : Nat := (line.toList.takeWhile (· == ' ')).length

namespace Report

/-! ## Lines of the outline -/

/-- What the outline says about the root of a filter. -/
def caption : Filter → String
  | .literal key value => key ++ ":" ++ value
  | .and _ _ => "AND"
  | .or _ _ => "OR"
  | .not _ => "NOT"

def captionLine (level : Nat) (filter : Filter) : String := indent level ++ caption filter

section
variable {level : Nat} {filter first second : Filter} {rest behind : List String}

theorem outline_eq (level : Nat) (filter : Filter) :
    outline .plain level filter =
      captionLine level filter :: filter.parts.flatMap (outline .plain (level + 1)) := by
  cases filter with
  | literal key value =>
    simp [outline, captionLine, caption, Filter.parts, Painter.plain, String.append_assoc]
  | and left right | or left right | not child =>
    simp [outline, captionLine, caption, Filter.parts, Painter.plain]

theorem toList_captionLine (level : Nat) (filter : Filter) :
    (captionLine level filter).toList =
      List.replicate (2 * level) ' ' ++ (caption filter).toList := by
  simp [captionLine, indent, spaces]

theorem toList_caption_literal (key value : String) :
    (caption (.literal key value)).toList = key.toList ++ ':' :: value.toList := by
  simp [caption]

theorem colon_mem_caption_iff : ':' ∈ (caption filter).toList ↔ filter.parts = [] := by
  cases filter with
  | literal key value => simp [toList_caption_literal, Filter.parts]
  | and left right | or left right | not child => simp [caption, Filter.parts]

theorem colon_mem_captionLine_iff :
    ':' ∈ (captionLine level filter).toList ↔ filter.parts = [] := by
  rw [toList_captionLine, List.mem_append, colon_mem_caption_iff]
  simp

theorem lineFeed_not_mem_captionLine (listable : filter.Listable) :
    '\n' ∉ (captionLine level filter).toList := by
  rw [toList_captionLine, List.mem_append]
  cases filter with
  | literal key value =>
    obtain ⟨isKey, whole⟩ := listable.literal
    have notInKey : '\n' ∉ key.toList := fun member => absurd (isKey.2 _ member) (by decide)
    simp [toList_caption_literal, notInKey, whole]
  | and left right | or left right | not child => simp [caption]

theorem stops_caption (listable : filter.Listable) : Stops (· == ' ') (caption filter).toList := by
  cases filter with
  | literal key value =>
    obtain ⟨nonempty, inside⟩ := listable.literal.1
    rw [toList_caption_literal]
    obtain ⟨c, tail, spelt⟩ := List.exists_cons_of_ne_nil nonempty
    rw [spelt, List.cons_append, stops_cons, beq_eq_false_iff_ne]
    rintro rfl
    exact absurd (inside ' ' (by rw [spelt]; exact List.mem_cons_self)) (by decide)
  | and left right | or left right | not child => simp [caption, stops_cons]

theorem indentation_captionLine (listable : filter.Listable) :
    indentation (captionLine level filter) = 2 * level := by
  rw [indentation, toList_captionLine, takeWhile_of_stops _ (stops_caption listable),
    List.length_replicate]
  simp

/-! ## Sizes -/

theorem length_outline (level : Nat) (filter : Filter) :
    (outline .plain level filter).length = filter.nodeCount := by
  induction filter generalizing level with
  | literal key value => rfl
  | and left right leftLength rightLength | or left right leftLength rightLength =>
    simp only [outline, Filter.nodeCount, List.length_cons, List.length_append, leftLength,
      rightLength]
    omega
  | not child childLength =>
    simp only [outline, Filter.nodeCount, List.length_cons, childLength]
    omega

theorem countP_outline (level : Nat) (filter : Filter) :
    (outline .plain level filter).countP (fun line => ':' ∈ line.toList) = filter.literalCount := by
  induction filter generalizing level with
  | literal key value =>
    simp [outline_eq, colon_mem_captionLine_iff, Filter.parts, Filter.literalCount]
  | and left right leftCount rightCount | or left right leftCount rightCount =>
    rw [outline_eq, List.countP_cons]
    simp [colon_mem_captionLine_iff, Filter.parts, Filter.literalCount, leftCount, rightCount]
  | not child childCount =>
    rw [outline_eq, List.countP_cons]
    simp [colon_mem_captionLine_iff, Filter.parts, Filter.literalCount, childCount]

theorem indentation_le (listable : filter.Listable) :
    ∀ line ∈ outline .plain (level + 1) filter, indentation line ≤ 2 * (level + filter.depth) := by
  induction filter using Filter.induction_on_parts generalizing level with
  | step filter ih =>
    intro line member
    rw [outline_eq, List.mem_cons, List.mem_flatMap] at member
    rcases member with rfl | ⟨part, isPart, member⟩
    · have := filter.depth_pos
      rw [indentation_captionLine listable]
      omega
    · have := Filter.depth_lt_of_mem_parts part isPart
      have := ih part isPart (listable.part part isPart) line member
      omega

theorem exists_deepest (level : Nat) (listable : filter.Listable) :
    ∃ line ∈ outline .plain (level + 1) filter, indentation line = 2 * (level + filter.depth) := by
  induction filter using Filter.induction_on_parts generalizing level with
  | step filter ih =>
    rcases filter.depth_cases with flat | ⟨part, isPart, deep⟩
    · refine ⟨captionLine (level + 1) filter, ?_, ?_⟩
      · rw [outline_eq]
        exact List.mem_cons_self
      · rw [indentation_captionLine listable, flat]
    · obtain ⟨line, member, deepest⟩ := ih part isPart (level + 1) (listable.part part isPart)
      refine ⟨line, ?_, ?_⟩
      · rw [outline_eq]
        exact List.mem_cons_of_mem _ (List.mem_flatMap.mpr ⟨part, isPart, member⟩)
      · omega

/-! ## Reading the outline back -/

/-- Equal captions belong to nodes of one kind, which differ in their parts only. -/
theorem eq_of_caption_eq (listable : first.Listable) (alsoListable : second.Listable)
    (same : caption first = caption second) :
    first.parts.length = second.parts.length ∧ (first.parts = second.parts → first = second) := by
  have leaves : first.parts = [] ↔ second.parts = [] := by
    rw [← colon_mem_caption_iff, same, colon_mem_caption_iff]
  cases first with
  | literal key value =>
    cases second with
    | literal other own =>
      have stops : ∀ tail, Stops isKeyChar (':' :: tail) := fun tail => stops_cons.mpr (by decide)
      have texts := congrArg String.toList same
      rw [toList_caption_literal, toList_caption_literal] at texts
      obtain ⟨keys, values⟩ := eq_of_runs listable.literal.1.2 (stops _) alsoListable.literal.1.2
        (stops _) texts
      obtain rfl := String.toList_inj.mp keys
      obtain rfl := String.toList_inj.mp (List.cons.inj values).2
      exact ⟨rfl, fun _ => rfl⟩
    | and _ _ | or _ _ | not _ => simp [Filter.parts] at leaves
  | and left right =>
    cases second with
    | and _ _ => simp [Filter.parts]
    | or _ _ | not _ => simp [caption] at same
    | literal _ _ => simp [Filter.parts] at leaves
  | or left right =>
    cases second with
    | or _ _ => simp [Filter.parts]
    | and _ _ | not _ => simp [caption] at same
    | literal _ _ => simp [Filter.parts] at leaves
  | not child =>
    cases second with
    | not _ => simp [Filter.parts]
    | and _ _ | or _ _ => simp [caption] at same
    | literal _ _ => simp [Filter.parts] at leaves

/-- The outline of the filter is told apart from the lines behind it and from other outlines. -/
def Decodes (level : Nat) (first : Filter) : Prop :=
  ∀ {second : Filter} {rest behind : List String}, second.Listable →
    outline .plain level first ++ rest = outline .plain level second ++ behind →
    first = second ∧ rest = behind

theorem flatMap_outline_inj {firsts seconds : List Filter}
    (decode : ∀ part ∈ firsts, Decodes level part)
    (listable : ∀ part ∈ seconds, part.Listable) (lengths : firsts.length = seconds.length)
    (same : firsts.flatMap (outline .plain level) ++ rest =
      seconds.flatMap (outline .plain level) ++ behind) : firsts = seconds ∧ rest = behind := by
  induction firsts generalizing seconds with
  | nil =>
    obtain rfl := List.eq_nil_of_length_eq_zero lengths.symm
    exact ⟨rfl, same⟩
  | cons first firsts ih =>
    cases seconds with
    | nil => contradiction
    | cons second seconds =>
      obtain ⟨decodes, moreDecode⟩ := List.forall_mem_cons.mp decode
      obtain ⟨isListable, moreListable⟩ := List.forall_mem_cons.mp listable
      simp only [List.flatMap_cons, List.append_assoc] at same
      obtain ⟨rfl, more⟩ := decodes isListable same
      obtain ⟨rfl, rests⟩ := ih moreDecode moreListable (Nat.succ.inj lengths) more
      exact ⟨rfl, rests⟩

theorem decodes_of_listable (listable : first.Listable) : Decodes level first := by
  induction first using Filter.induction_on_parts generalizing level with
  | step first ih =>
    intro second rest behind alsoListable same
    rw [outline_eq, outline_eq, List.cons_append, List.cons_append] at same
    obtain ⟨lines, more⟩ := List.cons.inj same
    have captions : caption first = caption second := String.append_right_inj _ |>.mp lines
    obtain ⟨lengths, determined⟩ := eq_of_caption_eq listable alsoListable captions
    have decode : ∀ part ∈ first.parts, Decodes (level + 1) part :=
      fun part member => ih part member (listable.part part member)
    obtain ⟨parts, rests⟩ := flatMap_outline_inj decode alsoListable.part lengths more
    exact ⟨determined parts, rests⟩

theorem lineFeed_not_mem_outline (listable : filter.Listable) :
    ∀ line ∈ outline .plain level filter, '\n' ∉ line.toList := by
  induction filter using Filter.induction_on_parts generalizing level with
  | step filter ih =>
    rw [outline_eq, List.forall_mem_cons]
    refine ⟨lineFeed_not_mem_captionLine listable, fun line member => ?_⟩
    obtain ⟨part, isPart, member⟩ := List.mem_flatMap.mp member
    exact ih part isPart (listable.part part isPart) line member

end

/-- The text of the outline below its head, without colours. -/
def outlineText (filter : Filter) : String := Program.unlines (outline .plain 1 filter)

theorem linesOf_outlineText {filter : Filter} (listable : filter.Listable) :
    linesOf (outlineText filter) = outline .plain 1 filter :=
  linesOf_unlines (lineFeed_not_mem_outline listable)

/-- The outline shows the whole filter: no other filter has the same text. It has a line for each
node, a colon in as many lines as there are literals, and its deepest line is indented by two spaces
for each level of the filter. -/
theorem outline_shows_filter (filter : Filter) (listable : filter.Listable) :
    (∀ other : Filter, other.Listable → outlineText other = outlineText filter → other = filter) ∧
    (linesOf (outlineText filter)).length = filter.nodeCount ∧
    (linesOf (outlineText filter)).countP (fun line => ':' ∈ line.toList) = filter.literalCount ∧
    ((linesOf (outlineText filter)).map indentation).max? = some (2 * filter.depth) := by
  rw [linesOf_outlineText listable]
  refine ⟨fun other alsoListable same => ?_, length_outline 1 filter, countP_outline 1 filter, ?_⟩
  · have lines := congrArg linesOf same
    rw [linesOf_outlineText listable, linesOf_outlineText alsoListable] at lines
    exact (decodes_of_listable alsoListable listable (congrArg (· ++ []) lines)).1
  · obtain ⟨line, member, deepest⟩ := exists_deepest 0 listable
    rw [Nat.zero_add] at deepest
    rw [List.max?_eq_some_iff, List.forall_mem_map]
    refine ⟨List.mem_map.mpr ⟨line, member, deepest⟩, fun line member => ?_⟩
    have bounded := indentation_le listable line member
    rwa [Nat.zero_add] at bounded

/-- A value may be spelt like other lines of an outline. -/
theorem outline_shows_filter_lookalikes :
    let filter := Filter.and (.literal "and" " OR: x") (.not (.literal "not" "AND"))
    let other := Filter.and (.not (.literal "and" " OR: x")) (.literal "not" "AND")
    filter.Listable ∧ other.Listable ∧ outlineText other ≠ outlineText filter ∧
      (linesOf (outlineText filter)).length = 4 ∧
      (linesOf (outlineText filter)).countP (fun line => ':' ∈ line.toList) = 2 ∧
      ((linesOf (outlineText filter)).map indentation).max? = some 6 := by
  intro filter other
  have listable : filter.Listable := by decide
  have alsoListable : other.Listable := by decide
  obtain ⟨determines, lines, colons, deepest⟩ := outline_shows_filter filter listable
  refine ⟨listable, alsoListable, fun same => ?_, lines, colons, deepest⟩
  exact absurd (determines other alsoListable same) (by decide)

end Report

end Terminal

end CatalogQuery
