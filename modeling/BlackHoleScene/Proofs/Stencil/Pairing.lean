import BlackHoleScene.Proofs.Stencil.Occurrence
import Mathlib.Data.List.Nodup

/-!
# Pairs of markers

The tags that open or close sections are the markers of a text. Which of them
belong together can be said without any tree: a closing marker belongs to the
last opening marker of its key before it that is free, that is, neither taken by
an earlier closing marker nor enclosed by a pair that was closed earlier.
`pairs` finds the pairs by recursion on the markers, and `mem_pairs_iff` says
that it follows this rule.
-/

namespace BlackHoleScene
namespace Stencil

/-- Tags that open sections. -/
def Role.isOpener : Role → Bool
  | .opener _ => true
  | _ => false

/-- The tag of a piece, if it opens or closes a section. -/
def Located.marker? : Located Piece → Option (Located Tag)
  | ⟨_, .gap _⟩ => none
  | ⟨offset, .mark tag⟩ =>
      if tag.role = .value then none else some ⟨offset, tag⟩

/-- The markers among pieces. -/
def markersOf (pieces : List Piece) : List (Located Tag) :=
  (Piece.locateAll 0 pieces).filterMap Located.marker?

/-- The markers of a text, in order. -/
def markers (text : List Char) : List (Located Tag) := markersOf (pieces text)

/-- An opening marker with the closing marker that it belongs to. -/
structure Pair where
  opener : Located Tag
  closer : Located Tag
  deriving DecidableEq

namespace Pair

/-- The offset lies strictly between the markers of the pair. -/
def Encloses (pair : Pair) (offset : Nat) : Prop :=
  pair.opener.offset < offset ∧ offset < pair.closer.offset

instance (pair : Pair) (offset : Nat) : Decidable (pair.Encloses offset) := by
  unfold Encloses
  infer_instance

/-- The marker is one of the pair. -/
def Has (pair : Pair) (marker : Located Tag) : Prop :=
  marker = pair.opener ∨ marker = pair.closer

instance
    (pair : Pair)
    (marker : Located Tag) : Decidable (pair.Has marker) := by
  unfold Has
  infer_instance

/-- The first pair ends before the second one begins. -/
def Precedes (first second : Pair) : Prop :=
  first.closer.offset < second.opener.offset

/-- The first pair lies strictly between the markers of the second one. -/
def IsWithin (inner outer : Pair) : Prop :=
  outer.opener.offset < inner.opener.offset ∧
    inner.closer.offset < outer.closer.offset

end Pair

/-- The marker is neither taken nor enclosed by any of the pairs. -/
def Located.IsFree (marker : Located Tag) (paired : List Pair) : Prop :=
  ∀ pair ∈ paired, marker ≠ pair.opener ∧ ¬pair.Encloses marker.offset

instance
    (marker : Located Tag)
    (paired : List Pair) : Decidable (marker.IsFree paired) := by
  unfold Located.IsFree
  infer_instance

/-- The opening markers that are free, latest first. -/
def freeOpeners
    (paired : List Pair)
    (earlier : List (Located Tag)) : List (Located Tag) :=
  earlier.filter fun marker => marker.item.role.isOpener && marker.IsFree paired

/-- The opening marker that a marker closes, given the earlier markers, latest
first, and the pairs among them: the last free one of its key. -/
def partner?
    (marker : Located Tag)
    (earlier : List (Located Tag))
    (paired : List Pair) : Option (Located Tag) :=
  if marker.item.role = .closer then
    (freeOpeners paired earlier).find? fun opener =>
      opener.item.key = marker.item.key
  else none

/-- The pairs among markers, latest first. -/
def pairing : List (Located Tag) → List Pair
  | [] => []
  | marker :: earlier =>
      match partner? marker earlier (pairing earlier) with
      | some opener => ⟨opener, marker⟩ :: pairing earlier
      | none => pairing earlier

/-- The pairs of a text, in the order of their closing markers. -/
def pairs (text : List Char) : List Pair :=
  (pairing (markers text).reverse).reverse

/-- Among all markers and pairs of a text, the second marker may close what the
first one opens: it has its key, stands later, and no earlier pair has taken or
encloses the first. -/
structure Located.MayOpen
    (opener closer : Located Tag)
    (all : List (Located Tag))
    (paired : List Pair) : Prop where
  mem : opener ∈ all
  isOpener : opener.item.role.isOpener = true
  key : opener.item.key = closer.item.key
  earlier : opener.offset < closer.offset
  free :
    ∀ pair ∈ paired, pair.closer.offset < closer.offset →
      opener ≠ pair.opener ∧ ¬pair.Encloses opener.offset

/-- The first marker is the last one that may open what the second one closes.
-/
def Located.Opens
    (opener closer : Located Tag)
    (all : List (Located Tag))
    (paired : List Pair) : Prop :=
  opener.MayOpen closer all paired ∧
    ∀ other : Located Tag,
      other.MayOpen closer all paired → other.offset ≤ opener.offset

/-! ### Markers -/

/-- A marker is the tag of its piece, at the offset of the piece. -/
theorem eq_of_marker?
    {piece : Located Piece}
    {marker : Located Tag}
    (found : piece.marker? = some marker) :
    piece = ⟨marker.offset, .mark marker.item⟩ := by
  rcases piece with ⟨offset, characters | tag⟩
  · cases found
  · simp only [Located.marker?] at found
    split at found
    · cases found
    · cases found
      rfl

/-- A marker of pieces is one of them, where it is located. -/
theorem mem_markersOf_iff
    {pieces : List Piece}
    {marker : Located Tag} :
    marker ∈ markersOf pieces ↔
      marker.item.role ≠ .value ∧
        ⟨marker.offset, .mark marker.item⟩ ∈
          Piece.locateAll 0 pieces := by
  rw [markersOf, List.mem_filterMap]
  constructor
  · rintro ⟨piece, located, found⟩
    obtain rfl := eq_of_marker? found
    refine ⟨?_, located⟩
    intro isValue
    simp [Located.marker?, isValue] at found
  · rintro ⟨notValue, located⟩
    exact ⟨_, located, if_neg notValue⟩

/-- A marker lies before the end of the pieces. -/
theorem offset_lt_of_mem_markersOf
    {pieces : List Piece}
    {marker : Located Tag}
    (member : marker ∈ markersOf pieces) :
    marker.offset < (pieces.flatMap Piece.source).length := by
  have stands := Piece.standsAt_of_mem_locateAll (mem_markersOf_iff.1 member).2
  have length := marker.item.length_source_pos
  have bounds := stands.bounds
  simp only [Piece.source] at bounds
  omega

/-- One more piece adds its marker, if it is one. -/
theorem markersOf_concat
    (pieces : List Piece)
    (piece : Piece) :
    markersOf (pieces ++ [piece]) =
      markersOf pieces ++
        (Located.marker?
          ⟨(pieces.flatMap Piece.source).length, piece⟩).toList := by
  rw [markersOf, Piece.locateAll_append, List.filterMap_append, Nat.zero_add]
  rfl

/-- Markers are in the order of their offsets. -/
theorem pairwise_markersOf (pieces : List Piece) :
    (markersOf pieces).Pairwise fun first second =>
      first.offset < second.offset := by
  rw [markersOf, List.pairwise_filterMap]
  refine (Piece.pairwise_locateAll 0 pieces).imp ?_
  intro first second apart earlier isEarlier later isLater
  obtain rfl := eq_of_marker? isEarlier
  obtain rfl := eq_of_marker? isLater
  have length := earlier.item.length_source_pos
  simp only [Piece.source] at apart
  omega

/-! ### The recursion -/

/-- A free opener is an earlier opening marker that is free. -/
theorem mem_freeOpeners_iff
    {paired : List Pair}
    {earlier : List (Located Tag)}
    {marker : Located Tag} :
    marker ∈ freeOpeners paired earlier ↔
      marker ∈ earlier ∧ marker.item.role.isOpener = true ∧
        marker.IsFree paired := by
  simp [freeOpeners]

/-- A marker pairs with a free opener of its key, if it pairs at all. -/
theorem of_partner?
    {marker opener : Located Tag}
    {earlier : List (Located Tag)}
    {paired : List Pair}
    (found : partner? marker earlier paired = some opener) :
    marker.item.role = .closer ∧ opener ∈ freeOpeners paired earlier ∧
      opener.item.key = marker.item.key := by
  unfold partner? at found
  split at found
  · next isCloser =>
      exact ⟨isCloser, List.mem_of_find?_eq_some found,
        by simpa using List.find?_some found⟩
  · cases found

/-- One more marker adds the pair that it closes, if it closes one. -/
theorem mem_pairing_cons_iff
    {marker : Located Tag}
    {earlier : List (Located Tag)}
    {pair : Pair} :
    pair ∈ pairing (marker :: earlier) ↔
      (pair.closer = marker ∧
        partner? marker earlier (pairing earlier) = some pair.opener) ∨
        pair ∈ pairing earlier := by
  rw [pairing]
  cases partner? marker earlier (pairing earlier) with
  | none => simp
  | some opener =>
      rw [List.mem_cons]
      refine or_congr_left ⟨?_, ?_⟩
      · rintro rfl
        exact ⟨rfl, rfl⟩
      · rintro ⟨rfl, found⟩
        cases found
        rfl

/-- The markers of a pair are among those that were paired. -/
theorem mem_of_mem_pairing
    {all : List (Located Tag)}
    {pair : Pair}
    (member : pair ∈ pairing all) :
    pair.opener ∈ all ∧ pair.closer ∈ all := by
  induction all with
  | nil => cases member
  | cons marker earlier ih =>
      rcases mem_pairing_cons_iff.1 member with ⟨rfl, found⟩ | older
      · have opener := (mem_freeOpeners_iff.1 (of_partner? found).2.1).1
        exact ⟨List.mem_cons_of_mem _ opener, List.mem_cons_self⟩
      · obtain ⟨opener, closer⟩ := ih older
        exact ⟨List.mem_cons_of_mem _ opener, List.mem_cons_of_mem _ closer⟩

/-- Later markers keep the pairs among earlier ones, and the pairs that they add
are closed by one of them. -/
theorem mem_pairing_append
    {later earlier : List (Located Tag)}
    {pair : Pair} :
    (pair ∈ pairing earlier → pair ∈ pairing (later ++ earlier)) ∧
      (pair ∈ pairing (later ++ earlier) → pair.closer ∈ later ∨
        pair ∈ pairing earlier) := by
  induction later with
  | nil => exact ⟨id, .inr⟩
  | cons marker rest ih =>
      constructor
      · intro older
        exact mem_pairing_cons_iff.2 (.inr (ih.1 older))
      · intro member
        rcases mem_pairing_cons_iff.1 member with ⟨rfl, _⟩ | older
        · exact .inl List.mem_cons_self
        · exact (ih.2 older).imp_left (List.mem_cons_of_mem marker)

/-- The closing markers of pairs are some of the markers, each once. -/
theorem closers_sublist (all : List (Located Tag)) :
    ((pairing all).map Pair.closer).Sublist all := by
  induction all with
  | nil => exact .slnil
  | cons marker earlier ih =>
      rw [pairing]
      cases partner? marker earlier (pairing earlier) with
      | none => exact ih.cons marker
      | some opener => exact ih.cons_cons marker

/-- Latest first: the offsets fall. -/
def Falling (all : List (Located Tag)) : Prop :=
  all.Pairwise fun first second => second.offset < first.offset

namespace Falling

/-- Markers of the same offset are the same. -/
theorem eq_of_offset_eq
    {all : List (Located Tag)}
    {first second : Located Tag}
    (falling : Falling all)
    (left : first ∈ all)
    (right : second ∈ all)
    (same : first.offset = second.offset) :
    first = second := by
  induction all with
  | nil => cases left
  | cons marker rest ih =>
      obtain ⟨below, fallingRest⟩ := List.pairwise_cons.1 falling
      rcases List.mem_cons.1 left with rfl | leftRest
      · rcases List.mem_cons.1 right with rfl | rightRest
        · rfl
        · have smaller := below second rightRest
          omega
      · rcases List.mem_cons.1 right with rfl | rightRest
        · have smaller := below first leftRest
          omega
        · exact ih fallingRest leftRest rightRest

/-- The first marker found is the last one that there is to find. -/
theorem offset_le_of_find?
    {all : List (Located Tag)}
    {p : Located Tag → Bool}
    {found other : Located Tag}
    (falling : Falling all)
    (finds : all.find? p = some found)
    (member : other ∈ all)
    (holds : p other = true) :
    other.offset ≤ found.offset := by
  obtain ⟨_, before, after, rfl, fails⟩ :=
    List.find?_eq_some_iff_append.1 finds
  rcases List.mem_append.1 member with isBefore | rest
  · have failed := fails other isBefore
    simp [holds] at failed
  · rcases List.mem_cons.1 rest with rfl | isAfter
    · exact Nat.le_refl _
    · have below :=
        (List.pairwise_cons.1 (List.pairwise_append.1 falling).2.1).1
      exact Nat.le_of_lt (below other isAfter)

section Split

variable {later earlier : List (Located Tag)} {closer : Located Tag}
variable (falling : Falling (later ++ closer :: earlier))
include falling

/-- The markers before a marker are those with a smaller offset. -/
theorem mem_earlier_iff {marker : Located Tag} :
    marker ∈ earlier ↔
      marker ∈ later ++ closer :: earlier ∧
        marker.offset < closer.offset := by
  obtain ⟨_, behind, ahead⟩ := List.pairwise_append.1 falling
  obtain ⟨below, _⟩ := List.pairwise_cons.1 behind
  constructor
  · intro member
    exact ⟨List.mem_append_right _ (List.mem_cons_of_mem _ member),
      below marker member⟩
  · rintro ⟨member, smaller⟩
    rcases List.mem_append.1 member with isLater | rest
    · have larger := ahead marker isLater closer List.mem_cons_self
      omega
    · rcases List.mem_cons.1 rest with rfl | isEarlier
      · omega
      · exact isEarlier

/-- The pairs that were closed before a marker are those among the markers
before it. -/
theorem mem_pairing_iff {pair : Pair} :
    pair ∈ pairing earlier ↔
      pair ∈ pairing (later ++ closer :: earlier) ∧
        pair.closer.offset < closer.offset := by
  constructor
  · intro member
    have smaller := (falling.mem_earlier_iff.1 (mem_of_mem_pairing member).2).2
    exact ⟨mem_pairing_append.1 (mem_pairing_cons_iff.2 (.inr member)),
      smaller⟩
  · rintro ⟨member, smaller⟩
    have ahead := (List.pairwise_append.1 falling).2.2
    rcases mem_pairing_append.2 member with isLater | rest
    · have larger := ahead pair.closer isLater closer List.mem_cons_self
      omega
    · rcases mem_pairing_cons_iff.1 rest with ⟨same, _⟩ | older
      · rw [same] at smaller
        omega
      · exact older

/-- A marker closes the pair that the recursion finds when it comes to it. -/
theorem partner?_eq_some_iff {opener : Located Tag} :
    partner? closer earlier (pairing earlier) = some opener ↔
      ⟨opener, closer⟩ ∈ pairing (later ++ closer :: earlier) := by
  constructor
  · intro found
    exact mem_pairing_append.1 (mem_pairing_cons_iff.2 (.inl ⟨rfl, found⟩))
  · intro member
    have ahead := (List.pairwise_append.1 falling).2.2
    rcases mem_pairing_append.2 member with isLater | rest
    · have larger := ahead closer isLater closer List.mem_cons_self
      omega
    · rcases mem_pairing_cons_iff.1 rest with ⟨_, found⟩ | older
      · exact found
      · have smaller := (falling.mem_pairing_iff.1 older).2
        exact absurd smaller (Nat.lt_irrefl _)

/-- The markers that may open what a marker closes are the free opening markers
of its key before it. -/
theorem mayOpen_iff {opener : Located Tag} :
    opener.MayOpen closer (later ++ closer :: earlier)
      (pairing (later ++ closer :: earlier)) ↔
      opener ∈ freeOpeners (pairing earlier) earlier ∧
        opener.item.key = closer.item.key := by
  rw [mem_freeOpeners_iff]
  constructor
  · intro may
    refine ⟨⟨falling.mem_earlier_iff.2 ⟨may.mem, may.earlier⟩,
      may.isOpener, ?_⟩, may.key⟩
    intro pair member
    obtain ⟨closed, before⟩ := falling.mem_pairing_iff.1 member
    exact may.free pair closed before
  · rintro ⟨⟨member, isOpener, free⟩, key⟩
    obtain ⟨mem, earlier⟩ := falling.mem_earlier_iff.1 member
    refine ⟨mem, isOpener, key, earlier, ?_⟩
    intro pair closed before
    exact free pair (falling.mem_pairing_iff.2 ⟨closed, before⟩)

/-- A closing marker closes the last marker that it may close. -/
theorem partner?_eq_some_iff_opens
    (isCloser : closer.item.role = .closer)
    {opener : Located Tag} :
    partner? closer earlier (pairing earlier) = some opener ↔
      opener.Opens closer (later ++ closer :: earlier)
        (pairing (later ++ closer :: earlier)) := by
  have fallingFree : Falling (freeOpeners (pairing earlier) earlier) := by
    have behind := (List.pairwise_append.1 falling).2.1
    exact (List.pairwise_cons.1 behind).2.filter _
  have candidates := @mayOpen_iff later earlier closer falling
  have opens : ∀ opener : Located Tag,
      partner? closer earlier (pairing earlier) = some opener →
        opener.Opens closer (later ++ closer :: earlier)
          (pairing (later ++ closer :: earlier)) := by
    intro opener found
    obtain ⟨_, free, key⟩ := of_partner? found
    refine ⟨candidates.2 ⟨free, key⟩, ?_⟩
    intro other may
    obtain ⟨otherFree, otherKey⟩ := candidates.1 may
    rw [partner?, if_pos isCloser] at found
    exact fallingFree.offset_le_of_find? found otherFree
      (by simpa using otherKey)
  refine ⟨opens opener, ?_⟩
  rintro ⟨may, last⟩
  obtain ⟨free, key⟩ := candidates.1 may
  cases found : partner? closer earlier (pairing earlier) with
  | none =>
      rw [partner?, if_pos isCloser, List.find?_eq_none] at found
      exact absurd key (by simpa using found opener free)
  | some other =>
      obtain ⟨otherMay, otherLast⟩ := opens other found
      have same : other.offset = opener.offset :=
        Nat.le_antisymm (last other otherMay) (otherLast opener may)
      have equal :=
        fallingFree.eq_of_offset_eq (candidates.1 otherMay).1 free same
      rw [equal]

end Split

end Falling

/-! ### The pairs of a text -/

theorem falling_markers (text : List Char) : Falling (markers text).reverse :=
  List.pairwise_reverse.2 (pairwise_markersOf (pieces text))

theorem mem_pairs_iff_mem_pairing
    {text : List Char}
    {pair : Pair} :
    pair ∈ pairs text ↔ pair ∈ pairing (markers text).reverse :=
  List.mem_reverse

/-- The markers of a pair of a text are markers of the text. -/
theorem mem_markers_of_mem_pairs
    {text : List Char}
    {pair : Pair}
    (member : pair ∈ pairs text) :
    pair.opener ∈ markers text ∧ pair.closer ∈ markers text := by
  simpa using mem_of_mem_pairing (mem_pairs_iff_mem_pairing.1 member)

/-- What may open a section of a text does not depend on the order in which
markers and pairs are listed. -/
theorem mayOpen_iff_reverse
    {text : List Char}
    {opener closer : Located Tag} :
    opener.MayOpen closer (markers text) (pairs text) ↔
      opener.MayOpen closer (markers text).reverse
        (pairing (markers text).reverse) := by
  constructor
  · intro may
    exact ⟨List.mem_reverse.2 may.mem, may.isOpener, may.key, may.earlier,
      fun pair member => may.free pair (mem_pairs_iff_mem_pairing.2 member)⟩
  · intro may
    exact ⟨List.mem_reverse.1 may.mem, may.isOpener, may.key, may.earlier,
      fun pair member => may.free pair (mem_pairs_iff_mem_pairing.1 member)⟩

/-- A closing marker of a text belongs to the last marker that may open what it
closes. -/
theorem mem_pairs_iff
    {text : List Char}
    {pair : Pair} :
    pair ∈ pairs text ↔
      pair.closer ∈ markers text ∧ pair.closer.item.role = .closer ∧
        pair.opener.Opens pair.closer (markers text) (pairs text) := by
  obtain ⟨opener, closer⟩ := pair
  have falling := falling_markers text
  have reversed :
      closer ∈ markers text ↔ closer ∈ (markers text).reverse :=
    List.mem_reverse.symm
  simp only [reversed, Located.Opens, mayOpen_iff_reverse,
    mem_pairs_iff_mem_pairing]
  generalize (markers text).reverse = all at falling ⊢
  constructor
  · intro member
    have closes := (mem_of_mem_pairing member).2
    obtain ⟨later, earlier, rfl⟩ := List.append_of_mem closes
    have found := falling.partner?_eq_some_iff.2 member
    have isCloser := (of_partner? found).1
    exact ⟨closes, isCloser,
      (falling.partner?_eq_some_iff_opens isCloser).1 found⟩
  · rintro ⟨closes, isCloser, last⟩
    obtain ⟨later, earlier, rfl⟩ := List.append_of_mem closes
    have found := (falling.partner?_eq_some_iff_opens isCloser).2 last
    exact falling.partner?_eq_some_iff.1 found

/-- A closing marker of a text is paired exactly when some marker may open what
it closes. -/
theorem exists_mem_pairs_iff
    {text : List Char}
    {closer : Located Tag}
    (closes : closer ∈ markers text)
    (isCloser : closer.item.role = .closer) :
    (∃ opener, ⟨opener, closer⟩ ∈ pairs text) ↔
      ∃ opener : Located Tag,
        opener.MayOpen closer (markers text) (pairs text) := by
  have falling := falling_markers text
  simp only [mayOpen_iff_reverse, mem_pairs_iff_mem_pairing]
  rw [← List.mem_reverse] at closes
  generalize (markers text).reverse = all at falling closes ⊢
  obtain ⟨later, earlier, rfl⟩ := List.append_of_mem closes
  simp only [falling.mayOpen_iff, ← falling.partner?_eq_some_iff, partner?,
    if_pos isCloser]
  rw [← Option.isSome_iff_exists, List.find?_isSome]
  simp

/-- No pair of a text is listed twice. -/
theorem nodup_pairs (text : List Char) : (pairs text).Nodup := by
  have falling := falling_markers text
  have nodup : (markers text).reverse.Nodup :=
    falling.imp fun smaller same => by simp [same] at smaller
  have closers := (closers_sublist (markers text).reverse).nodup nodup
  exact List.nodup_reverse.2 closers.of_map

/-- In a pair of a text, the markers have the same key, one of them opens a
section, the other one closes it, and it comes later. -/
theorem opens_and_closes_of_mem_pairs
    {text : List Char}
    {pair : Pair}
    (member : pair ∈ pairs text) :
    pair.opener.item.key = pair.closer.item.key ∧
      pair.opener.item.role.isOpener = true ∧
      pair.closer.item.role = .closer ∧
        pair.opener.offset < pair.closer.offset := by
  obtain ⟨_, isCloser, may, _⟩ := mem_pairs_iff.1 member
  exact ⟨may.key, may.isOpener, isCloser, may.earlier⟩

/-- Markers of a text at the same offset are the same. -/
theorem marker_eq_of_offset_eq
    {text : List Char}
    {first second : Located Tag}
    (left : first ∈ markers text)
    (right : second ∈ markers text)
    (same : first.offset = second.offset) :
    first = second :=
  (falling_markers text).eq_of_offset_eq (List.mem_reverse.2 left)
    (List.mem_reverse.2 right) same

/-- Pairs of a text with the same closing marker are the same. -/
theorem eq_of_closer_eq
    {text : List Char}
    {first second : Pair}
    (left : first ∈ pairs text)
    (right : second ∈ pairs text)
    (same : first.closer = second.closer) :
    first = second := by
  obtain ⟨_, _, may, last⟩ := mem_pairs_iff.1 left
  obtain ⟨_, _, otherMay, otherLast⟩ := mem_pairs_iff.1 right
  rw [same] at may last
  have openers : first.opener = second.opener :=
    marker_eq_of_offset_eq may.mem otherMay.mem
      (Nat.le_antisymm (otherLast _ may) (last _ otherMay))
  cases first
  cases second
  simp_all

/-- Pairs of a text that share a marker are the same. -/
theorem eq_of_has
    {text : List Char}
    {first second : Pair}
    {marker : Located Tag}
    (left : first ∈ pairs text)
    (right : second ∈ pairs text)
    (hasLeft : first.Has marker)
    (hasRight : second.Has marker) :
    first = second := by
  have untaken :
      ∀ one ∈ pairs text, ∀ other ∈ pairs text,
        one.opener = other.opener →
          ¬one.closer.offset < other.closer.offset := by
    intro one inPairs other inPairs' same earlier
    have may := (mem_pairs_iff.1 inPairs').2.2.1
    exact (may.free one inPairs earlier).1 same.symm
  obtain ⟨_, opensLeft, closesLeft, _⟩ := opens_and_closes_of_mem_pairs left
  obtain ⟨_, opensRight, closesRight, _⟩ :=
    opens_and_closes_of_mem_pairs right
  rcases hasLeft with rfl | rfl
  · rcases hasRight with same | same
    · apply eq_of_closer_eq left right
      apply marker_eq_of_offset_eq (mem_markers_of_mem_pairs left).2
        (mem_markers_of_mem_pairs right).2
      have notLess := untaken first left second right same
      have notGreater := untaken second right first left same.symm
      omega
    · rw [same, closesRight] at opensLeft
      cases opensLeft
  · rcases hasRight with same | same
    · rw [← same, closesLeft] at opensRight
      cases opensRight
    · exact eq_of_closer_eq left right same

end Stencil
end BlackHoleScene
