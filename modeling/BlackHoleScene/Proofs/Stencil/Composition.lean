import BlackHoleScene.Proofs.Stencil.Resolution

/-!
# Putting texts together

A text that leaves no section open can be put in front of any other, and a text
whose markers all belong to pairs can be put between the markers of a section,
without either part being read in another way than alone:
`pass_append_and_pass_enclosed`. In front of another text, what counts is that
no tag is written across the seam. The other text may close sections that are
not open, or leave some open, since what is read after a row never reaches into
it: `Nesting.foldl_read_resumed`.
-/

namespace BlackHoleScene
namespace Stencil

/-! ### Pieces across a seam -/

/-- No tag is written across the seam of two texts. -/
def Seamless (first second : List Char) : Prop :=
  ∀ (tag : Tag) (before after : List Char),
    first ++ second = before ++ (tag.source ++ after) →
      before.length + tag.source.length ≤ first.length ∨
        first.length ≤ before.length

/-- Only the tags among the pieces can be written across a seam. -/
theorem seamless_of_pieces
    {first second : List Char}
    (within :
      ∀ piece ∈ Piece.locateAll 0 (pieces (first ++ second)),
        (∃ characters, piece.item = .gap characters) ∨
          piece.offset + piece.item.source.length ≤ first.length ∨
          first.length ≤ piece.offset) :
    Seamless first second := by
  intro tag before after occurs
  rcases within _ (mem_locateAll_of_occurs occurs) with ⟨_, isGap⟩ |
    inFirst | inSecond
  · cases isGap
  · exact .inl inFirst
  · exact .inr inSecond

namespace Seamless

variable {c : Char} {tag : Tag} {first second rest : List Char}

/-- What follows the beginning of a text has the same seam. -/
theorem of_append
    {begun : List Char}
    (seamless : Seamless (begun ++ rest) second) :
    Seamless rest second := by
  intro tag before after occurs
  have whole :
      begun ++ rest ++ second = (begun ++ before) ++ (tag.source ++ after) := by
    rw [List.append_assoc, occurs, List.append_assoc]
  have placed := seamless tag (begun ++ before) after whole
  simp only [List.length_append] at placed
  omega

/-- What starts with no tag alone starts with none in front of another text. -/
theorem read?_append_eq_none
    (seamless : Seamless (c :: rest) second)
    (unread : Tag.read? (c :: rest) = none) :
    Tag.read? (c :: (rest ++ second)) = none := by
  cases found : Tag.read? (c :: (rest ++ second)) with
  | none => rfl
  | some result =>
      obtain ⟨tag, after⟩ := result
      have begins : c :: rest ++ second = tag.source ++ after :=
        Tag.eq_append_of_read? found
      have fits : tag.source.length ≤ (c :: rest).length := by
        simpa using seamless tag [] after (by simpa using begins)
      rcases List.append_eq_append_iff.1 begins with ⟨between, cut, _⟩ |
        ⟨between, cut, _⟩
      · have short := congrArg List.length cut
        have none : between = [] := by
          rw [List.length_append] at short
          exact List.length_eq_zero_iff.1 (by omega)
        rw [none, List.append_nil] at cut
        cases unread.symm.trans
          (Tag.read?_eq_some_iff.2 (by rw [List.append_nil, cut]))
      · cases unread.symm.trans (Tag.read?_eq_some_iff.2 cut)

end Seamless

/-- A character of plain text is read before the gap that it belongs to. -/
theorem foldl_read_consPlain
    (c : Char)
    (pieces : List Piece)
    (nesting : Nesting) :
    (Piece.consPlain c pieces).foldl Nesting.read nesting =
      pieces.foldl Nesting.read (nesting.read (.gap [c])) := by
  rcases pieces with _ | ⟨characters | tag, rest⟩
  · rfl
  · have joined : nesting.read (.gap (c :: characters)) =
        (nesting.read (.gap [c])).read (.gap characters) := by
      have parts := Node.pushText_append [c] characters nesting.nodes
      simp only [List.singleton_append] at parts
      simp only [Nesting.read, parts]
    rw [Piece.consPlain, List.foldl_cons, List.foldl_cons, joined]
  · rfl

/-- Without a tag across the seam, two texts are read one after the other. -/
theorem foldl_read_pieces_append
    {first second : List Char}
    (seamless : Seamless first second)
    (nesting : Nesting) :
    (pieces (first ++ second)).foldl Nesting.read nesting =
      (pieces second).foldl Nesting.read
        ((pieces first).foldl Nesting.read nesting) := by
  induction first using pieces.induct generalizing nesting with
  | case1 first tag rest found ih =>
      obtain rfl := Tag.eq_append_of_read? found
      rw [List.append_assoc, pieces_source_append, pieces_source_append,
        List.foldl_cons, List.foldl_cons]
      exact ih seamless.of_append _
  | case2 unread => rw [pieces_nil]; rfl
  | case3 c rest unread ih =>
      have apart := seamless.read?_append_eq_none unread
      have whole : Seamless ([c] ++ rest) second := seamless
      rw [List.cons_append, pieces_cons_of_read?_eq_none apart,
        pieces_cons_of_read?_eq_none unread, foldl_read_consPlain,
        foldl_read_consPlain]
      exact ih whole.of_append _

/-! ### Reading on after a row -/

namespace Nesting

/-- What has been read if these nodes, newest first, had been read before: they
come before the outermost row. -/
def resumed (earlier nodes : List Node) : List OpenBlock → Nesting
  | [] => ⟨nodes.foldr push earlier, []⟩
  | innermost :: outer =>
      let around := resumed earlier innermost.before outer
      ⟨nodes, { innermost with before := around.nodes } :: around.waiting⟩

section Resumed

variable (earlier nodes : List Node) (waiting : List OpenBlock)

/-- Text is pushed onto the innermost row in either case. -/
theorem resumed_pushText (characters : List Char) :
    resumed earlier (pushText characters nodes) waiting =
      { resumed earlier nodes waiting with
        nodes :=
          pushText characters (resumed earlier nodes waiting).nodes } := by
  cases waiting with
  | cons innermost outer => rfl
  | nil =>
      rcases characters with _ | ⟨c, characters⟩
      · rfl
      · rcases nodes with _ |
          ⟨text | key | ⟨key, inverted, children⟩, rest⟩
        · rfl
        · have parts :=
            Node.pushText_append text (c :: characters)
              (rest.foldr push earlier)
          exact congrArg (fun row => Nesting.mk row []) parts
        · rfl
        · rfl

/-- A node is pushed onto the innermost row in either case. -/
theorem resumed_push (node : Node) :
    resumed earlier (push node nodes) waiting =
      { resumed earlier nodes waiting with
        nodes := push node (resumed earlier nodes waiting).nodes } := by
  cases node with
  | text characters => exact resumed_pushText earlier nodes waiting characters
  | value key => cases waiting <;> rfl
  | block key inverted children => cases waiting <;> rfl

/-- Nodes are pushed onto the innermost row in either case. -/
theorem resumed_foldr_push (inside : List Node) :
    resumed earlier (inside.foldr push nodes) waiting =
      { resumed earlier nodes waiting with
        nodes := inside.foldr push (resumed earlier nodes waiting).nodes } := by
  induction inside with
  | nil => rfl
  | cons node rest ih => rw [List.foldr_cons, resumed_push, ih, List.foldr_cons]

/-- Giving up the innermost section adds to the row around it in either case. -/
theorem resumed_dissolve (innermost : OpenBlock) :
    resumed earlier (innermost.dissolve nodes) waiting =
      let around := resumed earlier innermost.before waiting
      ⟨OpenBlock.dissolve { innermost with before := around.nodes } nodes,
        around.waiting⟩ := by
  rw [OpenBlock.dissolve, resumed_foldr_push, resumed_pushText]
  rfl

/-- The nodes of everything read follow the earlier ones. -/
theorem dissolveAll_resumed :
    let all := resumed earlier nodes waiting
    OpenBlock.dissolveAll all.waiting all.nodes =
      (OpenBlock.dissolveAll waiting nodes).foldr push earlier := by
  induction waiting generalizing nodes with
  | nil => rfl
  | cons innermost outer ih =>
      have given := ih (innermost.dissolve nodes)
      rw [resumed_dissolve] at given
      exact given

/-- A closing tag finds the same section open in either case. -/
theorem close?_resumed (key : Key) :
    let all := resumed earlier nodes waiting
    close? key all.nodes all.waiting =
      (close? key nodes waiting).map fun closed =>
        resumed earlier closed.nodes closed.waiting := by
  induction waiting generalizing nodes with
  | nil => rfl
  | cons innermost outer ih =>
      have given := ih (innermost.dissolve nodes)
      rw [resumed_dissolve] at given
      simp only [resumed, close?]
      split
      · have closed := resumed_push earlier innermost.before outer
          (.block innermost.key innermost.inverted nodes.reverse)
        exact congrArg some closed.symm
      · exact given

end Resumed

/-- Reading one more piece does not reach into the earlier nodes. -/
theorem read_resumed
    (earlier : List Node)
    (nesting : Nesting)
    (piece : Piece) :
    (resumed earlier nesting.nodes nesting.waiting).read piece =
      resumed earlier (nesting.read piece).nodes
        (nesting.read piece).waiting := by
  obtain ⟨nodes, waiting⟩ := nesting
  rcases piece with characters | ⟨_ | inverted | _, key⟩
  · exact (resumed_pushText earlier nodes waiting characters).symm
  · exact (resumed_push earlier nodes waiting (.value key)).symm
  · rfl
  · have closes := close?_resumed earlier nodes waiting key
    simp only [read, closes]
    cases close? key nodes waiting with
    | some closed => rfl
    | none => exact (resumed_pushText earlier nodes waiting _).symm

/-- Reading pieces does not reach into the earlier nodes. -/
theorem foldl_read_resumed
    (earlier : List Node)
    (nesting : Nesting)
    (pieces : List Piece) :
    pieces.foldl read (resumed earlier nesting.nodes nesting.waiting) =
      let all := pieces.foldl read nesting
      resumed earlier all.nodes all.waiting := by
  induction pieces generalizing nesting with
  | nil => rfl
  | cons piece rest ih =>
      rw [List.foldl_cons, read_resumed, ih, List.foldl_cons]

/-- After pieces whose opening markers all belong to pairs, no section is open:
its own marker would belong to none. -/
theorem waiting_eq_nil_of_paired
    {text : List Char}
    (closed :
      ∀ marker ∈ markers text, marker.item.role.isOpener = true →
        ∃ pair ∈ pairs text, pair.Has marker) :
    ((pieces text).foldl read {}).waiting = [] := by
  have tracks : ((pieces text).foldl read {}).Tracks (pieces text) :=
    Tracks.nil.foldl_read
  have openers := tracks.openers
  cases waiting : ((pieces text).foldl read {}).waiting with
  | nil => rfl
  | cons innermost outer =>
      rw [waiting] at openers
      have isFree :
          ⟨(Node.sourceAll (innermost.preceding outer)).length,
            innermost.opener⟩ ∈
            freeOpeners (pairing (latestMarkers (pieces text)))
              (latestMarkers (pieces text)) := by
        rw [← openers]
        exact List.mem_cons_self
      obtain ⟨member, isOpener, free⟩ := mem_freeOpeners_iff.1 isFree
      obtain ⟨pair, paired, has⟩ :=
        closed _ (List.mem_reverse.1 member) isOpener
      rcases has with isOpener' | isCloser
      · exact absurd isOpener'
          (free pair (mem_pairs_iff_mem_pairing.1 paired)).1
      · have closes := (opens_and_closes_of_mem_pairs paired).2.2.1
        rw [← isCloser] at closes
        cases closes

end Nesting

/-! ### Nodes of texts that were put together -/

/-- The nodes of a text that follows one without open sections follow those of
the one. -/
theorem nodesOf_append
    {first second : List Char}
    (closed :
      ∀ marker ∈ markers first, marker.item.role.isOpener = true →
        ∃ pair ∈ pairs first, pair.Has marker)
    (seamless : Seamless first second) :
    (nodesOf (first ++ second)).reverse =
      (nodesOf second).reverse.foldr push (nodesOf first).reverse := by
  let row := ((pieces first).foldl Nesting.read {}).nodes
  have read :
      (pieces first).foldl Nesting.read {} = Nesting.resumed row [] [] := by
    exact congrArg (Nesting.mk row) (Nesting.waiting_eq_nil_of_paired closed)
  have resumed := Nesting.foldl_read_resumed row {} (pieces second)
  have nodes : (nodesOf first).reverse = row := by
    simp [nodesOf, read, Nesting.finish_eq, Nesting.resumed]
  rw [nodes, nodesOf, foldl_read_pieces_append seamless, read]
  simp only [Nesting.finish_eq, List.reverse_reverse, nodesOf]
  exact (congrArg
    (fun all : Nesting => OpenBlock.dissolveAll all.waiting all.nodes)
      resumed).trans
    (Nesting.dissolveAll_resumed row _ _)

/-- A text whose markers all belong to pairs is the inside of the section whose
markers are put around it. -/
theorem nodesOf_enclosed
    {text : List Char}
    (paired :
      ∀ marker ∈ markers text, ∃ pair ∈ pairs text, pair.Has marker)
    (key : Key)
    (inverted : Bool) :
    nodesOf
      ((Tag.mk (.opener inverted) key).source ++ text ++
        (Tag.mk .closer key).source) =
      [.block key inverted (nodesOf text)] := by
  have tidy : Node.TidyRow [.block key inverted (nodesOf text)] :=
    Node.TidyRow.nil.cons
      (Node.tidy_block_iff.2 (Node.tidyRow_nodesOf text)) fun _ => trivial
  have tagless :
      ∀ characters ∈ Node.textsAll [.block key inverted (nodesOf text)],
      Tagless characters := by
    intro characters member
    exact tagless_of_mem_textsAll_nodesOf paired (by simpa using member)
  have readBack := Node.nodesOf_sourceAll tidy tagless
  simpa [sourceAll_nodesOf] using readBack

/-! ### Rendering of texts that were put together -/

section Pass

variable (bindings : Bindings)

/-- A text that follows one without open sections is rendered as it is alone. -/
theorem pass_append
    {first second : String}
    (closed :
      ∀ marker ∈ markers first.toList, marker.item.role.isOpener = true →
        ∃ pair ∈ pairs first.toList, pair.Has marker)
    (seamless : Seamless first.toList second.toList) :
    pass bindings (first ++ second) =
      pass bindings first ++ pass bindings second := by
  apply String.toList_injective
  have nodes := congrArg List.reverse (nodesOf_append closed seamless)
  have merges :=
    merges_foldr_push (nodesOf second.toList).reverse
      (nodesOf first.toList).reverse
  rw [List.reverse_reverse] at nodes
  rw [String.toList_append, toList_pass, toList_pass, toList_pass,
    String.toList_append, nodes, Node.renderAll_merged merges]
  simp

/-- The text between the markers of a section. -/
def enclosed (key : Key) (inverted : Bool) (inside : String) : String :=
  String.ofList (Tag.mk (.opener inverted) key).source ++ inside ++
    String.ofList (Tag.mk .closer key).source

/-- A text whose markers all belong to pairs is rendered inside a section as it
is alone. -/
theorem pass_enclosed
    {inside : String}
    (paired :
      ∀ marker ∈ markers inside.toList, ∃ pair ∈ pairs inside.toList,
        pair.Has marker)
    (key : Key)
    (inverted : Bool) :
    pass bindings (enclosed key inverted inside) =
      match bindings.flag? key with
      | some holds => if holds = inverted then "" else pass bindings inside
      | none => enclosed key inverted (pass bindings inside) := by
  apply String.toList_injective
  have nodes := nodesOf_enclosed paired key inverted
  have text : (enclosed key inverted inside).toList =
      (Tag.mk (.opener inverted) key).source ++ inside.toList ++
        (Tag.mk .closer key).source := by
    simp [enclosed]
  rw [toList_pass, text, nodes, Node.renderAll_cons, Node.renderAll_nil,
    List.append_nil, Node.render]
  cases bindings.flag? key with
  | some holds =>
      by_cases leftOut : holds = inverted
      · simp [leftOut]
      · simp [leftOut]
  | none => simp [enclosed]

end Pass

/-- Two texts in a row are rendered one after the other, and a text inside a
section as the flag of the section decides, if each pairs its own markers and no
tag is written across the seam. -/
theorem pass_append_and_pass_enclosed (bindings : Bindings) :
    (∀ first second : String,
      (∀ marker ∈ markers first.toList, marker.item.role.isOpener = true →
        ∃ pair ∈ pairs first.toList, pair.Has marker) →
      Seamless first.toList second.toList →
        pass bindings (first ++ second) =
          pass bindings first ++ pass bindings second) ∧
    ∀ (inside : String) (key : Key) (inverted : Bool),
      (∀ marker ∈ markers inside.toList, ∃ pair ∈ pairs inside.toList,
        pair.Has marker) →
        (bindings.flag? key = some (!inverted) →
          pass bindings (enclosed key inverted inside) =
            pass bindings inside) ∧
        (bindings.flag? key = some inverted →
          pass bindings (enclosed key inverted inside) = "") ∧
        (bindings.flag? key = none →
          pass bindings (enclosed key inverted inside) =
            enclosed key inverted (pass bindings inside)) := by
  refine ⟨fun first second closed seamless =>
    pass_append bindings closed seamless, ?_⟩
  intro inside key inverted paired
  have rendered := pass_enclosed bindings paired key inverted
  refine ⟨?kept, ?leftOut, ?unbound⟩
  case kept =>
    intro bound
    rw [rendered, bound]
    cases inverted <;> rfl
  case leftOut =>
    intro bound
    rw [rendered, bound]
    exact if_pos rfl
  case unbound =>
    intro unbound
    rw [rendered, unbound]

/-- Braces meet at the seam, the second text closes a section that is not open
and opens one that it does not close, and the key of the sections around the
third one is used inside as well. -/
theorem pass_append_and_pass_enclosed_braces :
    let key : Key := ⟨['p'], rfl⟩
    let unbound : Key := ⟨['q'], rfl⟩
    let bindings : Bindings :=
      .ofFlags fun other => if other = key then some true else none
    let first := "\x7b\x7b/p\x7d\x7d\x7b\x7b#p\x7d\x7da\x7b\x7b/p\x7d\x7d\x7b"
    let second := "\x7bx\x7d\x7b\x7b/p\x7d\x7d\x7b\x7b#q\x7d\x7d"
    let inside := "\x7b\x7b#p\x7d\x7da\x7b\x7b/p\x7d\x7d\x7b"
    pass bindings (first ++ second) =
      pass bindings first ++ pass bindings second ∧
      pass bindings (enclosed key false inside) = pass bindings inside ∧
      pass bindings (enclosed key true inside) = "" ∧
      pass bindings (enclosed unbound true inside) =
        enclosed unbound true (pass bindings inside) := by
  intro key unbound bindings first second inside
  have closed :
      ∀ marker ∈ markers first.toList, marker.item.role.isOpener = true →
      ∃ pair ∈ pairs first.toList, pair.Has marker := by
    decide +kernel
  have seamless : Seamless first.toList second.toList := by
    have pieces :
        ∀ piece ∈
          Piece.locateAll 0 (pieces (first.toList ++ second.toList)),
        piece.item = .gap ['{', '{', 'x', '}'] ∨
          piece.offset + piece.item.source.length ≤ first.toList.length ∨
          first.toList.length ≤ piece.offset := by
      decide +kernel
    exact seamless_of_pieces fun piece member =>
      (pieces piece member).imp_left fun gap => ⟨_, gap⟩
  have paired : ∀ marker ∈ markers inside.toList,
      ∃ pair ∈ pairs inside.toList, pair.Has marker := by
    decide +kernel
  obtain ⟨rows, sections⟩ := pass_append_and_pass_enclosed bindings
  exact ⟨rows first second closed seamless,
    (sections inside key false paired).1 rfl,
    (sections inside key true paired).2.1 rfl,
    (sections inside unbound true paired).2.2 rfl⟩

end Stencil
end BlackHoleScene
