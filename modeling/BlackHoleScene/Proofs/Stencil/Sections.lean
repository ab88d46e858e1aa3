import BlackHoleScene.Proofs.Stencil.Pairing
import BlackHoleScene.Proofs.Stencil.Spelling

/-!
# Sections are pairs of markers

Reading keeps a stack of open sections and rebuilds rows of nodes when one of
them is closed or given up. `Nesting.Tracks` relates this to the recursion on
markers after every piece: the sections built so far are the pairs found so far,
and the open sections are the opening markers that are still free. So the
sections of a text are its pairs (`sections_nodesOf`), nested as the pairs are,
and the markers without a partner are left in plain text
(`pairedSections_nodesOf`).
-/

namespace BlackHoleScene
namespace Stencil

/-- The markers around a section that begins at an offset. -/
def Pair.around
    (start : Nat)
    (key : Key)
    (inverted : Bool)
    (children : List Node) : Pair :=
  let opener := Tag.mk (.opener inverted) key
  let inside := Node.sourceAll children
  ⟨⟨start, opener⟩,
    ⟨start + opener.source.length + inside.length, ⟨.closer, key⟩⟩⟩

/-- The markers around a section, where they stand; none for other nodes. -/
def Located.pair? : Located Node → Option Pair
  | ⟨offset, .block key inverted children⟩ =>
      some (.around offset key inverted children)
  | _ => none

namespace Node

/-- The markers around the sections of a row and of all nodes inside it, in the
order in which the sections end. -/
def sections (start : Nat) (nodes : List Node) : List Pair :=
  (locateAll start nodes).filterMap Located.pair?

section Sections

variable (start : Nat)

@[simp] theorem sections_nil : sections start [] = [] := rfl

@[simp] theorem sections_text
    (characters : List Char)
    (rest : List Node) :
    sections start (.text characters :: rest) =
      sections (start + characters.length) rest := rfl

@[simp] theorem sections_value
    (key : Key)
    (rest : List Node) :
    sections start (.value key :: rest) =
      sections (start + (Tag.mk .value key).source.length) rest := rfl

@[simp] theorem sections_block
    (key : Key)
    (inverted : Bool)
    (children rest : List Node) :
    sections start (.block key inverted children :: rest) =
      sections
        (start + (Tag.mk (.opener inverted) key).source.length) children ++
        .around start key inverted children ::
          sections
            (start + (block key inverted children).source.length) rest := by
  rw [sections, locateAll_block, List.filterMap_append]
  rfl

/-- The pairs of a row that begins with a section are those inside the section,
its own, and those of the rest. -/
theorem mem_sections_block_iff
    {key : Key}
    {inverted : Bool}
    {children rest : List Node}
    {pair : Pair} :
    pair ∈ sections start (.block key inverted children :: rest) ↔
      pair ∈
        sections
        (start + (Tag.mk (.opener inverted) key).source.length) children ∨
        pair = .around start key inverted children ∨
        pair ∈
          sections
            (start + (block key inverted children).source.length) rest := by
  rw [sections_block, List.mem_append, List.mem_cons]

theorem sections_append (before after : List Node) :
    sections start (before ++ after) =
      sections start before ++
        sections (start + (sourceAll before).length) after := by
  simp only [sections, locateAll_append, List.filterMap_append]

end Sections

end Node

/-- Merging text leaves the sections as they are. -/
theorem Merges.sections_eq
    {nodes merged : List Node}
    (merges : Merges nodes merged)
    (start : Nat) :
    Node.sections start merged = Node.sections start nodes := by
  induction merges generalizing start with
  | refl nodes => rfl
  | trans left right first second => rw [second, first]
  | append left right first second =>
      rw [Node.sections_append, Node.sections_append, first, second,
        left.sourceAll_eq]
  | join earlier later => rfl
  | empty => rfl

/-- A section in place of its opening tag and the nodes that followed adds the
pair of its markers. -/
theorem Node.sections_concat_block
    {inside children : List Node}
    (merges : Merges inside children)
    (key : Key)
    (inverted : Bool)
    (before : List Node) :
    let opener := Tag.mk (.opener inverted) key
    let read := before ++ .text opener.source :: inside
    sections 0 (before ++ [.block key inverted children]) =
      sections 0 read ++
        [⟨⟨(sourceAll before).length, opener⟩,
          ⟨(sourceAll read).length, ⟨.closer, key⟩⟩⟩] := by
  simp [sections_append, Pair.around, merges.sections_eq, merges.sourceAll_eq,
    Nat.add_assoc]

/-! ### Open sections and free markers -/

namespace OpenBlock

/-- The nodes before the opening tag of an open section, from the beginning of
the text. -/
def preceding (waiting : OpenBlock) (outer : List OpenBlock) : List Node :=
  outlineAll outer ++ waiting.before.reverse

/-- The opening markers of open sections, innermost first. -/
def openers : List OpenBlock → List (Located Tag)
  | [] => []
  | innermost :: outer =>
      ⟨(Node.sourceAll (innermost.preceding outer)).length,
        innermost.opener⟩ :: openers outer

/-- The opening markers of inner sections come before those of outer ones. -/
theorem exists_openers_append (inner outer : List OpenBlock) :
    ∃ above, openers (inner ++ outer) = above ++ openers outer ∧
      ∀ marker ∈ above, ∃ block ∈ inner,
        marker.item = block.opener := by
  induction inner with
  | nil => exact ⟨[], rfl, by simp⟩
  | cons innermost rest ih =>
      obtain ⟨above, split, opened⟩ := ih
      refine ⟨_ :: above, by rw [List.cons_append, openers, split]; rfl, ?_⟩
      intro marker member
      rcases List.mem_cons.1 member with rfl | later
      · exact ⟨innermost, List.mem_cons_self, rfl⟩
      · obtain ⟨block, isInner, same⟩ := opened marker later
        exact ⟨block, List.mem_cons_of_mem innermost isInner, same⟩

/-- Each of these markers is the opening tag of its section. -/
theorem exists_of_mem_openers
    {waiting : List OpenBlock}
    {marker : Located Tag}
    (member : marker ∈ openers waiting) :
    ∃ block ∈ waiting, marker.item = block.opener := by
  obtain ⟨above, split, opened⟩ := exists_openers_append waiting []
  simp only [openers, List.append_nil] at split
  exact opened marker (split ▸ member)

end OpenBlock

/-- A marker that opens a section is free when it is read. -/
theorem freeOpeners_cons_of_isOpener
    {marker : Located Tag}
    {earlier : List (Located Tag)}
    (isOpener : marker.item.role.isOpener = true)
    (latest : ∀ other ∈ earlier, other.offset < marker.offset) :
    freeOpeners (pairing earlier) (marker :: earlier) =
      marker :: freeOpeners (pairing earlier) earlier := by
  have free : marker.IsFree (pairing earlier) := by
    intro pair member
    obtain ⟨opener, closer⟩ := mem_of_mem_pairing member
    have openerBefore := latest pair.opener opener
    have closerBefore := latest pair.closer closer
    refine ⟨?_, ?_⟩
    · rintro rfl
      exact Nat.lt_irrefl _ openerBefore
    · intro encloses
      exact Nat.lt_asymm closerBefore encloses.2
  rw [freeOpeners, List.filter_cons_of_pos (by simp [isOpener, free])]
  rfl

/-- A marker that closes a section is no free opener. -/
theorem freeOpeners_cons_of_isCloser
    {marker : Located Tag}
    (isCloser : marker.item.role = .closer)
    (paired : List Pair)
    (earlier : List (Located Tag)) :
    freeOpeners paired (marker :: earlier) = freeOpeners paired earlier := by
  rw [freeOpeners, List.filter_cons_of_neg (by simp [isCloser, Role.isOpener])]
  rfl

/-- A closing marker passes over the free markers of other keys. -/
theorem partner?_eq_some_of_split
    {paired : List Pair}
    {earlier above outer : List (Located Tag)}
    {opener closer : Located Tag}
    (isCloser : closer.item.role = .closer)
    (free : freeOpeners paired earlier = above ++ opener :: outer)
    (others : ∀ marker ∈ above, marker.item.key ≠ closer.item.key)
    (same : opener.item.key = closer.item.key) :
    partner? closer earlier paired = some opener := by
  have passed :
      above.find? (fun marker => decide (marker.item.key = closer.item.key)) =
        none :=
    List.find?_eq_none.2 (by simpa using others)
  rw [partner?, if_pos isCloser, free, List.find?_append, passed,
    Option.none_or]
  exact List.find?_cons_of_pos (by simpa using same)

/-- One more pair leaves those markers free that it neither takes nor encloses.
-/
theorem freeOpeners_cons_pair
    (pair : Pair)
    (paired : List Pair)
    (earlier : List (Located Tag)) :
    freeOpeners (pair :: paired) earlier =
      (freeOpeners paired earlier).filter fun marker =>
        marker.IsFree [pair] := by
  rw [freeOpeners, freeOpeners, List.filter_filter]
  refine List.filter_congr ?_
  intro marker _
  have split :
      marker.IsFree (pair :: paired) ↔
        marker.IsFree [pair] ∧ marker.IsFree paired := by
    simp [Located.IsFree]
  simp only [split, Bool.decide_and]
  exact Bool.and_left_comm _ _ _

/-- A pair that ends after all markers takes its opening marker and encloses the
later ones, so that the earlier ones stay free. -/
theorem freeOpeners_cons_of_latest
    {paired : List Pair}
    {earlier above outer : List (Located Tag)}
    {opener closer : Located Tag}
    (falling : Falling earlier)
    (latest : ∀ other ∈ earlier, other.offset < closer.offset)
    (free : freeOpeners paired earlier = above ++ opener :: outer) :
    freeOpeners (⟨opener, closer⟩ :: paired) earlier = outer := by
  have fallingFree : Falling (above ++ opener :: outer) :=
    free ▸ falling.filter _
  obtain ⟨_, behind, ahead⟩ := List.pairwise_append.1 fallingFree
  obtain ⟨below, _⟩ := List.pairwise_cons.1 behind
  have aboveEnclosed :
      ∀ marker ∈ above, ¬marker.IsFree [⟨opener, closer⟩] := by
    intro marker member isFree
    have inFree : marker ∈ freeOpeners paired earlier :=
      free ▸ List.mem_append_left _ member
    have later := ahead marker member opener List.mem_cons_self
    have before := latest marker (mem_freeOpeners_iff.1 inFree).1
    exact (isFree _ List.mem_cons_self).2 ⟨later, before⟩
  have openerTaken : ¬opener.IsFree [⟨opener, closer⟩] := by
    intro isFree
    exact (isFree _ List.mem_cons_self).1 rfl
  have outerFree :
      ∀ marker ∈ outer, marker.IsFree [⟨opener, closer⟩] := by
    intro marker member pair isPair
    have smaller := below marker member
    rw [List.mem_singleton.1 isPair]
    refine ⟨?_, ?_⟩
    · rintro rfl
      exact Nat.lt_irrefl _ smaller
    · intro encloses
      exact Nat.lt_asymm smaller encloses.1
  rw [freeOpeners_cons_pair, free, List.filter_append,
    List.filter_eq_nil_iff.2 (by simpa using aboveEnclosed), List.nil_append,
    List.filter_cons_of_neg (by simpa using openerTaken),
    List.filter_eq_self.2 (by simpa using outerFree)]

/-- The markers among pieces, latest first. -/
def latestMarkers (pieces : List Piece) : List (Located Tag) :=
  (markersOf pieces).reverse

section LatestMarkers

variable (pieces : List Piece)

theorem falling_latestMarkers : Falling (latestMarkers pieces) :=
  List.pairwise_reverse.2 (pairwise_markersOf pieces)

/-- A marker that follows the pieces comes after all markers among them. -/
theorem offset_lt_of_mem_latestMarkers :
    ∀ marker ∈ latestMarkers pieces,
      marker.offset < (pieces.flatMap Piece.source).length :=
  fun _ member => offset_lt_of_mem_markersOf (List.mem_reverse.1 member)

/-- One more marker is the latest one. -/
theorem latestMarkers_concat
    {tag : Tag}
    (isMarker : tag.role ≠ .value) :
    latestMarkers (pieces ++ [.mark tag]) =
      ⟨(pieces.flatMap Piece.source).length, tag⟩ ::
        latestMarkers pieces := by
  simp [latestMarkers, markersOf_concat, Located.marker?, isMarker]

end LatestMarkers

/-! ### Reading keeps track of the pairs -/

namespace Nesting

/-- All nodes that have been read, with the tags of open sections as text. -/
def outline (nesting : Nesting) : List Node :=
  OpenBlock.outlineAll nesting.waiting ++ nesting.nodes.reverse

/-- What has been read agrees with the recursion on the markers of the pieces.
-/
structure Tracks (nesting : Nesting) (pieces : List Piece) : Prop where
  source : Node.sourceAll nesting.outline = pieces.flatMap Piece.source
  /-- The sections so far are the pairs so far. -/
  sections :
    Node.sections 0 nesting.outline = (pairing (latestMarkers pieces)).reverse
  /-- The open sections are those that a later marker may close. -/
  openers :
    OpenBlock.openers nesting.waiting =
      freeOpeners (pairing (latestMarkers pieces)) (latestMarkers pieces)

/-- Before a section is closed, its opening tag is text, and what follows the
tag is in the row of the section and in those inside it. -/
theorem outline_open
    (nodes : List Node)
    (inner : List OpenBlock)
    (closing : OpenBlock)
    (outer : List OpenBlock) :
    outline ⟨nodes, inner ++ closing :: outer⟩ =
      closing.preceding outer ++
        .text closing.opener.source ::
          (OpenBlock.outlineAll inner ++ nodes.reverse) := by
  simp [outline, OpenBlock.outlineAll_append, OpenBlock.outline,
    OpenBlock.preceding]

/-- Once it is closed, the section is a node of the row around it. -/
theorem outline_close
    (nodes : List Node)
    (closing : OpenBlock)
    (outer : List OpenBlock) :
    outline ⟨closing.close nodes, outer⟩ =
      closing.preceding outer ++
        [.block closing.key closing.inverted nodes.reverse] := by
  simp [outline, OpenBlock.close, OpenBlock.preceding]

/-- Pushed text follows what has been read. -/
theorem merges_outline_pushText
    (characters : List Char)
    (nodes : List Node)
    (waiting : List OpenBlock) :
    Merges (outline ⟨nodes, waiting⟩ ++ [.text characters])
      (outline ⟨pushText characters nodes, waiting⟩) := by
  have pushed := (Merges.refl (OpenBlock.outlineAll waiting)).append
    (merges_pushText characters nodes)
  rwa [← List.append_assoc] at pushed

namespace Tracks

variable {nesting after : Nesting} {pieces : List Piece}

theorem nil : Tracks {} [] := ⟨rfl, rfl, rfl⟩

/-- A piece that becomes a node without sections, and pairs with nothing. -/
theorem unpaired
    {piece : Piece}
    {node : Node}
    (tracks : nesting.Tracks pieces)
    (merges : Merges (nesting.outline ++ [node]) after.outline)
    (written : node.source = piece.source)
    (flat : ∀ start, Node.sections start [node] = [])
    (paired :
      pairing (latestMarkers (pieces ++ [piece])) =
        pairing (latestMarkers pieces))
    (openers :
      OpenBlock.openers after.waiting =
        freeOpeners (pairing (latestMarkers pieces))
          (latestMarkers (pieces ++ [piece]))) :
    after.Tracks (pieces ++ [piece]) where
  source := by simp [merges.sourceAll_eq, tracks.source, written]
  sections := by
    rw [merges.sections_eq, Node.sections_append, flat, List.append_nil,
      tracks.sections, paired]
  openers := by rw [openers, paired]

/-- A piece that is no marker becomes a node without sections. -/
theorem unmarked
    {piece : Piece}
    {node : Node}
    (tracks : nesting.Tracks pieces)
    (merges : Merges (nesting.outline ++ [node]) after.outline)
    (written : node.source = piece.source)
    (flat : ∀ start, Node.sections start [node] = [])
    (noMarker : ∀ offset, Located.marker? ⟨offset, piece⟩ = none)
    (waiting : after.waiting = nesting.waiting) :
    after.Tracks (pieces ++ [piece]) := by
  have same : latestMarkers (pieces ++ [piece]) = latestMarkers pieces := by
    simp [latestMarkers, markersOf_concat, noMarker]
  refine tracks.unpaired merges written flat ?_ ?_
  · rw [same]
  · rw [same, waiting, tracks.openers]

/-- An opening tag is free until it is closed. -/
theorem opener
    {nodes : List Node}
    {waiting : List OpenBlock}
    (tracks : Tracks ⟨nodes, waiting⟩ pieces)
    (inverted : Bool)
    (key : Key) :
    Tracks ⟨[], ⟨key, inverted, nodes⟩ :: waiting⟩
      (pieces ++ [.mark ⟨.opener inverted, key⟩]) := by
  let innermost : OpenBlock := ⟨key, inverted, nodes⟩
  have markers : latestMarkers (pieces ++ [.mark innermost.opener]) =
      ⟨(pieces.flatMap Piece.source).length, innermost.opener⟩ ::
        latestMarkers pieces :=
    latestMarkers_concat pieces (by simp [innermost, OpenBlock.opener])
  have grown : outline ⟨nodes, waiting⟩ ++ [.text innermost.opener.source] =
      outline ⟨[], innermost :: waiting⟩ := by
    simp [outline, OpenBlock.outline, innermost]
  refine tracks.unpaired (.of_eq grown) rfl (fun start => rfl) ?_ ?_
  · change pairing (latestMarkers (pieces ++ [.mark innermost.opener])) = _
    rw [markers, pairing, partner?,
      if_neg (by simp [innermost, OpenBlock.opener])]
  · change _ =
      freeOpeners _ (latestMarkers (pieces ++ [.mark innermost.opener]))
    rw [markers,
      freeOpeners_cons_of_isOpener rfl (offset_lt_of_mem_latestMarkers pieces),
      ← tracks.openers, ← tracks.source]
    rfl

/-- A closing tag without an open section of its key pairs with nothing. -/
theorem stray
    {nodes : List Node}
    {waiting : List OpenBlock}
    {key : Key}
    (tracks : Tracks ⟨nodes, waiting⟩ pieces)
    (missing : close? key nodes waiting = none) :
    Tracks ⟨pushText (Tag.mk .closer key).source nodes, waiting⟩
      (pieces ++ [.mark ⟨.closer, key⟩]) := by
  let closer : Located Tag :=
    ⟨(pieces.flatMap Piece.source).length, ⟨.closer, key⟩⟩
  have markers : latestMarkers (pieces ++ [.mark ⟨.closer, key⟩]) =
      closer :: latestMarkers pieces := latestMarkers_concat pieces (by simp)
  have alone :
      partner? closer (latestMarkers pieces) (pairing (latestMarkers pieces)) =
        none := by
    rw [partner?, if_pos rfl, ← tracks.openers, List.find?_eq_none]
    intro marker member
    obtain ⟨block, isWaiting, same⟩ :=
      OpenBlock.exists_of_mem_openers member
    have different := key_ne_of_close? missing block isWaiting
    simpa [same, OpenBlock.opener, closer] using different
  refine tracks.unpaired (merges_outline_pushText _ nodes waiting) rfl
    (fun start => rfl) ?_ ?_
  · rw [markers, pairing, alone]
  · rw [markers, freeOpeners_cons_of_isCloser rfl, ← tracks.openers]

/-- A closing tag pairs with the opening tag of the section that it closes. -/
theorem close
    {nodes : List Node}
    {waiting : List OpenBlock}
    {key : Key}
    {closed : Nesting}
    (tracks : Tracks ⟨nodes, waiting⟩ pieces)
    (found : close? key nodes waiting = some closed) :
    closed.Tracks (pieces ++ [.mark ⟨.closer, key⟩]) := by
  obtain ⟨inner, closing, outer, rfl, absent, rfl, rfl⟩ :=
    exists_of_close? found
  let before := closing.preceding outer
  let opener : Located Tag :=
    ⟨(Node.sourceAll before).length, closing.opener⟩
  let closer : Located Tag :=
    ⟨(pieces.flatMap Piece.source).length, ⟨.closer, closing.key⟩⟩
  have children := OpenBlock.merges_dissolveAll inner nodes
  have source := tracks.source
  have sections := tracks.sections
  rw [outline_open] at source sections
  obtain ⟨above, split, opened⟩ :=
    OpenBlock.exists_openers_append inner (closing :: outer)
  have free :
      freeOpeners (pairing (latestMarkers pieces)) (latestMarkers pieces) =
      above ++ opener :: OpenBlock.openers outer :=
    tracks.openers.symm.trans split
  have others : ∀ marker ∈ above, marker.item.key ≠ closer.item.key := by
    intro marker member
    obtain ⟨block, isInner, same⟩ := opened marker member
    rw [same]
    exact absent block isInner
  have markers :
      latestMarkers (pieces ++ [.mark closer.item]) =
        closer :: latestMarkers pieces :=
    latestMarkers_concat pieces (by simp [closer])
  have paired : pairing (latestMarkers (pieces ++ [.mark closer.item])) =
      ⟨opener, closer⟩ :: pairing (latestMarkers pieces) := by
    rw [markers, pairing, partner?_eq_some_of_split rfl free others rfl]
  refine ⟨?source, ?sections, ?openers⟩
  case source =>
    rw [outline_close, List.flatMap_append, ← source]
    simp [children.sourceAll_eq, Piece.source, OpenBlock.opener]
  case sections =>
    have added :=
      Node.sections_concat_block children closing.key closing.inverted before
    change _ = (pairing (latestMarkers (pieces ++ [.mark closer.item]))).reverse
    rw [paired, List.reverse_cons, ← sections, outline_close, added]
    exact congrArg
      (fun written => _ ++ [Pair.mk opener ⟨written.length, closer.item⟩])
      source
  case openers =>
    change _ =
      freeOpeners (pairing (latestMarkers (pieces ++ [.mark closer.item])))
      (latestMarkers (pieces ++ [.mark closer.item]))
    rw [paired, markers, freeOpeners_cons_of_isCloser rfl,
      freeOpeners_cons_of_latest
      (falling_latestMarkers pieces) (offset_lt_of_mem_latestMarkers pieces)
        free]

/-- Reading one more piece keeps track of the pairs. -/
theorem read
    {nesting : Nesting}
    (tracks : nesting.Tracks pieces)
    (piece : Piece) :
    (nesting.read piece).Tracks (pieces ++ [piece]) := by
  rcases piece with characters | ⟨_ | inverted | _, key⟩
  · exact tracks.unmarked
      (merges_outline_pushText characters _ _) rfl (fun _ => rfl)
      (fun _ => rfl) rfl
  · have grown : nesting.outline ++ [.value key] =
        (nesting.read (.mark ⟨.value, key⟩)).outline := by
      simp [outline, Nesting.read]
    exact tracks.unmarked (.of_eq grown) rfl (fun _ => rfl) (fun _ => rfl) rfl
  · exact tracks.opener inverted key
  · rw [Nesting.read]
    split
    · next closed found => exact tracks.close found
    · next missing => exact tracks.stray missing

/-- Reading pieces keeps track of the pairs. -/
theorem foldl_read
    {later : List Piece}
    (tracks : nesting.Tracks pieces) :
    (later.foldl Nesting.read nesting).Tracks (pieces ++ later) := by
  induction later generalizing nesting pieces with
  | nil => simpa using tracks
  | cons piece rest ih => simpa using ih (tracks.read piece)

/-- The sections of everything read are the pairs. -/
theorem finish (tracks : nesting.Tracks pieces) :
    Node.sections 0 nesting.finish =
      (pairing (latestMarkers pieces)).reverse := by
  have merges : Merges nesting.outline nesting.finish :=
    OpenBlock.merges_dissolveAll nesting.waiting nesting.nodes
  rw [merges.sections_eq, tracks.sections]

end Tracks

end Nesting

/-- The sections of a text are its pairs. -/
theorem sections_nodesOf (text : List Char) :
    Node.sections 0 (nodesOf text) = pairs text := by
  have tracks : ((pieces text).foldl Nesting.read {}).Tracks (pieces text) :=
    Nesting.Tracks.nil.foldl_read
  exact tracks.finish

/-! ### What the sections of a text tell about its pairs -/

section Node

variable {node outer inner : Located Node} {pair innerPair : Pair}
  {text : List Char}

/-- A pair of a text is that of one of its sections. -/
theorem mem_pairs_iff_exists_section :
    pair ∈ pairs text ↔
      ∃ node ∈ Node.locateAll 0 (nodesOf text), node.pair? = some pair := by
  rw [← sections_nodesOf]
  exact List.mem_filterMap

/-- The pair of a section begins where the section does, and its closing marker
stands within the section. -/
theorem bounds_of_pair? (found : node.pair? = some pair) :
    pair.opener.offset = node.offset ∧
      pair.opener.offset < pair.closer.offset ∧
      pair.closer.offset < node.ending := by
  rcases node with
    ⟨offset, characters | key | ⟨key, inverted, children⟩⟩
  · cases found
  · cases found
  · cases found
    have openerLength := (Tag.mk (.opener inverted) key).length_source_pos
    have closerLength := (Tag.mk .closer key).length_source_pos
    refine ⟨rfl, ?_, ?_⟩
    · simp only [Pair.around]
      omega
    · simp only [Pair.around, Located.ending, Node.source_block,
        List.length_append]
      omega

/-- A section shows the markers of its pair. -/
theorem shows_iff_of_pair?
    (found : node.pair? = some pair)
    {marker : Located Tag} :
    node.Shows ⟨marker.offset, .mark marker.item⟩ ↔ pair.Has marker := by
  obtain ⟨place, tag⟩ := marker
  rcases node with
    ⟨offset, characters | key | ⟨key, inverted, children⟩⟩
  · cases found
  · cases found
  · cases found
    simp [Located.Shows, Pair.Has, Pair.around]

/-- The pair of a section inside another one lies within its pair. -/
theorem isWithin_of_mem_inside
    (outerFound : outer.pair? = some pair)
    (innerFound : inner.pair? = some innerPair)
    (member : inner ∈ outer.inside) :
    innerPair.IsWithin pair := by
  have innerBounds := bounds_of_pair? innerFound
  rcases outer with
    ⟨offset, characters | key | ⟨key, inverted, children⟩⟩
  · cases outerFound
  · cases outerFound
  · cases outerFound
    have bounds := Node.bounds_of_mem_locateAll member
    have length := (Tag.mk (.opener inverted) key).length_source_pos
    simp only [Pair.IsWithin, Pair.around]
    omega

/-- The pairs of two sections are nested or apart, as the sections are. -/
theorem pairs_nested
    {nodes : List Node}
    {start : Nat}
    (outerMember : outer ∈ Node.locateAll start nodes)
    (innerMember : inner ∈ Node.locateAll start nodes)
    (outerFound : outer.pair? = some pair)
    (innerFound : inner.pair? = some innerPair) :
    pair = innerPair ∨ pair.Precedes innerPair ∨ innerPair.Precedes pair ∨
      (outer ∈ inner.inside ∧ pair.IsWithin innerPair) ∨
      (inner ∈ outer.inside ∧ innerPair.IsWithin pair) := by
  have outerBounds := bounds_of_pair? outerFound
  have innerBounds := bounds_of_pair? innerFound
  rcases Node.nested_of_mem_locateAll nodes start outer outerMember inner
    innerMember with
    rfl | before | after | isInner | isOuter
  · rw [outerFound] at innerFound
    exact .inl (Option.some.inj innerFound)
  · exact .inr (.inl (by simp only [Pair.Precedes]; omega))
  · exact .inr (.inr (.inl (by simp only [Pair.Precedes]; omega)))
  · exact .inr
      (.inr
        (.inr
          (.inl
            ⟨isInner,
              isWithin_of_mem_inside innerFound outerFound isInner⟩)))
  · exact .inr
      (.inr
        (.inr
          (.inr
            ⟨isOuter,
              isWithin_of_mem_inside outerFound innerFound isOuter⟩)))

/-- A section is inside another one exactly when its pair lies within the pair
of the other. -/
theorem mem_inside_iff_isWithin
    {nodes : List Node}
    {start : Nat}
    (outerMember : outer ∈ Node.locateAll start nodes)
    (innerMember : inner ∈ Node.locateAll start nodes)
    (outerFound : outer.pair? = some pair)
    (innerFound : inner.pair? = some innerPair) :
    inner ∈ outer.inside ↔ innerPair.IsWithin pair := by
  refine ⟨isWithin_of_mem_inside outerFound innerFound, ?_⟩
  intro within
  have outerBounds := bounds_of_pair? outerFound
  have innerBounds := bounds_of_pair? innerFound
  rcases pairs_nested outerMember innerMember outerFound innerFound with
    rfl | before | after | ⟨_, around⟩ | ⟨isInner, _⟩
  · exact absurd within.1 (Nat.lt_irrefl _)
  · simp only [Pair.Precedes, Pair.IsWithin] at before within
    omega
  · simp only [Pair.Precedes, Pair.IsWithin] at after within
    omega
  · exact absurd within.1 (Nat.lt_asymm around.1)
  · exact isInner

/-- A marker of a text is in no pair exactly when it stands in plain text. -/
theorem forall_not_has_iff_exists_text
    {marker : Located Tag}
    (isMarker : marker ∈ markers text) :
    (∀ pair ∈ pairs text, ¬pair.Has marker) ↔
      ∃ offset characters,
        ⟨offset, .text characters⟩ ∈ Node.locateAll 0 (nodesOf text) ∧
          StandsAt marker.offset marker.item.source offset characters := by
  obtain ⟨notValue, piece⟩ := mem_markersOf_iff.1 isMarker
  constructor
  · intro unpaired
    obtain ⟨node, member, shows⟩ := (spells_nodesOf text).exists_shows piece
    rcases node with
      ⟨offset, characters | key | ⟨key, inverted, children⟩⟩
    · exact ⟨offset, characters, member, shows.2⟩
    · have isValue : marker.item = ⟨.value, key⟩ :=
        Piece.mark.inj (congrArg Located.item shows)
      exact absurd (congrArg Tag.role isValue) notValue
    · have paired := mem_pairs_iff_exists_section.2 ⟨_, member, rfl⟩
      exact absurd ((shows_iff_of_pair? rfl).1 shows) (unpaired _ paired)
  · rintro ⟨offset, characters, isText, stands⟩ pair paired has
    obtain ⟨node, member, found⟩ := mem_pairs_iff_exists_section.1 paired
    have different : node ≠ ⟨offset, .text characters⟩ := by
      rintro rfl
      cases found
    have outside :=
      ((shows_iff_of_pair? found).2 has).before_or_after_text member isText
        different
    have bounds := stands.bounds
    have length := marker.item.length_source_pos
    simp only [Piece.source] at outside
    omega

end Node

/-- The sections among the nodes are the pairs of the text. -/
structure PairedSections (text : List Char) (nodes : List Node) : Prop where
  /-- There is one section for each pair, between its markers, and no other one.
  -/
  sections : Node.sections 0 nodes = pairs text
  once : (pairs text).Nodup
  /-- A closing marker is paired if some marker may open what it closes, -/
  paired :
    ∀ closer ∈ markers text, closer.item.role = .closer →
      ((∃ opener, ⟨opener, closer⟩ ∈ pairs text) ↔
        ∃ opener : Located Tag,
          opener.MayOpen closer (markers text) (pairs text))
  /-- and then with the last such marker. -/
  last :
    ∀ pair, pair ∈ pairs text ↔
      pair.closer ∈ markers text ∧ pair.closer.item.role = .closer ∧
        pair.opener.Opens pair.closer (markers text) (pairs text)
  key : ∀ pair ∈ pairs text, pair.opener.item.key = pair.closer.item.key
  /-- No marker is in two pairs. -/
  unshared :
    ∀ first ∈ pairs text, ∀ second ∈ pairs text, ∀ marker,
      first.Has marker → second.Has marker → first = second
  /-- Two pairs are disjoint or nested. -/
  apart :
    ∀ first ∈ pairs text, ∀ second ∈ pairs text,
      first = second ∨ first.Precedes second ∨ second.Precedes first ∨
        first.IsWithin second ∨ second.IsWithin first
  /-- The markers without a partner, and no others, are left in plain text. -/
  literal :
    ∀ marker ∈ markers text,
      ((∀ pair ∈ pairs text, ¬pair.Has marker) ↔
        ∃ offset characters,
          ⟨offset, .text characters⟩ ∈ Node.locateAll 0 nodes ∧
            StandsAt marker.offset marker.item.source offset characters)
  /-- Sections are nested as their pairs are. -/
  nested :
    ∀ outer ∈ Node.locateAll 0 nodes, ∀ inner ∈ Node.locateAll 0 nodes,
      ∀ pair innerPair,
        outer.pair? = some pair → inner.pair? = some innerPair →
        (inner ∈ outer.inside ↔ innerPair.IsWithin pair)

/-- The sections of a text are its pairs of markers. -/
theorem pairedSections_nodesOf (text : List Char) :
    PairedSections text (nodesOf text) where
  sections := sections_nodesOf text
  once := nodup_pairs text
  paired := fun _ closes isCloser => exists_mem_pairs_iff closes isCloser
  last := fun _ => mem_pairs_iff
  key := fun _ member => (opens_and_closes_of_mem_pairs member).1
  unshared := fun _ left _ right _ => eq_of_has left right
  apart := by
    intro first left second right
    obtain ⟨firstNode, firstMember, firstFound⟩ :=
      mem_pairs_iff_exists_section.1 left
    obtain ⟨secondNode, secondMember, secondFound⟩ :=
      mem_pairs_iff_exists_section.1 right
    have nested := pairs_nested firstMember secondMember firstFound secondFound
    tauto
  literal := fun _ isMarker => forall_not_has_iff_exists_text isMarker
  nested :=
    fun _ outerMember _ innerMember _ _ =>
      mem_inside_iff_isWithin outerMember innerMember

end Stencil
end BlackHoleScene
