import BlackHoleScene.Proofs.Stencil.Sections
import BlackHoleScene.Stencil.Rendering
import BlackHoleScene.Value.Written

/-!
# Rendering without a tree

What a stencil renders as can be read off its text from left to right. Pieces
inside a section that is left out give nothing, as do the markers of a pair
whose key is bound. A value tag gives the text of the value bound to its key.
All else is copied. `Spells.renderAll_eq` is the induction over the nodes that
makes this the rendering of the tree, and `render_ofString_eq_flatAll` the
result for a text.
-/

namespace BlackHoleScene

/-- Bindings of scalars to the text of values. -/
def Bindings.ofValues
    (flag? : Stencil.Key → Option Bool)
    (scalar? : Stencil.Key → Option (Value Float)) : Bindings where
  flag? := flag?
  scalar? := fun key => (scalar? key).map fun value => value.scalarText.toList

/-- Lists of names bind flags and the text of values, each name by its first
entry. -/
theorem Bindings.ofLists_eq_ofValues
    (flags : List (String × Bool))
    (scalars : List (String × Value Float)) :
    ofLists flags (scalars.map fun (name, value) => (name, value.scalarText)) =
      ofValues (fun key => flags.lookup key.name)
        (fun key => scalars.lookup key.name) := by
  have found : ∀ name : String,
      (scalars.map fun (name, value) => (name, value.scalarText)).lookup name =
        (scalars.lookup name).map Value.scalarText := by
    intro name
    induction scalars with
    | nil => rfl
    | cons first rest ih =>
        obtain ⟨key, value⟩ := first
        rw [List.map_cons, List.lookup_cons, List.lookup_cons]
        cases name == key <;> simp [ih]
  simp [ofLists, ofValues, found, Option.map_map, Function.comp_def]

namespace Stencil

section Flat

variable (flag? : Key → Option Bool) (scalar? : Key → Option (Value Float))

/-- The section between the markers is left out: its key is bound, to false if
it is kept when the flag is true, or to true if it is kept when the flag is
false. -/
def Pair.isLeftOut (pair : Pair) : Bool :=
  match flag? pair.opener.item.key, pair.opener.item.role with
  | some holds, .opener inverted => holds == inverted
  | _, _ => false

/-- What a piece is rendered as, given which markers belong together. -/
def Located.flat (paired : List Pair) (piece : Located Piece) : List Char :=
  if ∃ pair ∈ paired,
      pair.isLeftOut flag? ∧ pair.Encloses piece.offset then
    []
  else
    match piece.item with
    | .gap characters => characters
    | .mark ⟨.value, key⟩ =>
        match scalar? key with
        | some value => value.scalarText.toList
        | none => (Tag.mk .value key).source
    | .mark tag =>
        if (∃ pair ∈ paired, pair.Has ⟨piece.offset, tag⟩) ∧
            (flag? tag.key).isSome then
          []
        else tag.source

/-- What pieces are rendered as, one after the other. -/
def flatAll
    (paired : List Pair)
    (start : Nat)
    (pieces : List Piece) : List Char :=
  (Piece.locateAll start pieces).flatMap (Located.flat flag? scalar? paired)

/-- Something at the offset is rendered with regard to the pair: it is inside
the section, which is left out, or it is one of the markers. -/
def Pair.Matters (pair : Pair) (offset : Nat) : Prop :=
  (pair.isLeftOut flag? ∧ pair.Encloses offset) ∨
    pair.opener.offset = offset ∨ pair.closer.offset = offset

variable {flag?} {scalar?} {paired others : List Pair} {piece : Located Piece}

/-- Pairs that do not matter to a piece can be left out of account. -/
theorem Located.flat_eq_of_subset
    (fewer : others ⊆ paired)
    (enough :
      ∀ pair ∈ paired,
        pair.Matters flag? piece.offset → pair ∈ others) :
    piece.flat flag? scalar? paired = piece.flat flag? scalar? others := by
  have agree :
      ∀ pair,
        pair.Matters flag? piece.offset →
          (pair ∈ paired ↔ pair ∈ others) := by
    intro pair matters
    exact ⟨fun member => enough pair member matters,
      fun member => fewer member⟩
  have hidden :
      (∃ pair ∈ paired,
        pair.isLeftOut flag? ∧ pair.Encloses piece.offset) ↔
      ∃ pair ∈ others,
        pair.isLeftOut flag? ∧ pair.Encloses piece.offset := by
    refine exists_congr fun pair => and_congr_left ?_
    exact fun hides => agree pair (.inl hides)
  have marked :
      ∀ tag, (∃ pair ∈ paired, pair.Has ⟨piece.offset, tag⟩) ↔
      ∃ pair ∈ others, pair.Has ⟨piece.offset, tag⟩ := by
    intro tag
    refine exists_congr fun pair => and_congr_left ?_
    rintro (isOpener | isCloser)
    · exact agree pair (.inr (.inl (congrArg Located.offset isOpener).symm))
    · exact agree pair (.inr (.inr (congrArg Located.offset isCloser).symm))
  simp only [flat, hidden, marked]

/-- A piece inside a section that is left out gives nothing. -/
theorem Located.flat_eq_nil
    {pair : Pair}
    (member : pair ∈ paired)
    (leftOut : pair.isLeftOut flag?)
    (encloses : pair.Encloses piece.offset) :
    piece.flat flag? scalar? paired = [] :=
  if_pos ⟨pair, member, leftOut, encloses⟩

/-- Without pairs around it, a piece other than a value tag is copied. -/
theorem Located.flat_nil
    (plain : ∀ key, piece.item ≠ .mark ⟨.value, key⟩) :
    piece.flat flag? scalar? [] = piece.item.source := by
  rcases piece with ⟨offset, characters | ⟨_ | inverted | _, key⟩⟩
  · simp [flat, Piece.source]
  · exact absurd rfl (plain key)
  · simp [flat, Piece.source]
  · simp [flat, Piece.source]

/-- A value tag gives the text of the value that is bound to its key. -/
theorem Located.flat_value
    (offset : Nat)
    (key : Key) :
    Located.flat flag? scalar? [] ⟨offset, .mark ⟨.value, key⟩⟩ =
      Node.render (.ofValues flag? scalar?) (.value key) := by
  cases bound : scalar? key <;>
    simp [flat, Node.render, Bindings.ofValues, bound]

/-- A marker of a pair gives nothing if its key is bound. -/
theorem Located.flat_of_has
    {pair : Pair}
    {marker : Located Tag}
    (has : pair.Has marker)
    (notValue : marker.item.role ≠ .value) :
    Located.flat flag? scalar? [pair] ⟨marker.offset, .mark marker.item⟩ =
      if (flag? marker.item.key).isSome then [] else marker.item.source := by
  have notInside : ¬pair.Encloses marker.offset := by
    rintro ⟨afterOpener, beforeCloser⟩
    rcases has with rfl | rfl
    · exact Nat.lt_irrefl _ afterOpener
    · exact Nat.lt_irrefl _ beforeCloser
  obtain ⟨offset, ⟨_ | inverted | _, key⟩⟩ := marker
  · exact absurd rfl notValue
  · simp [flat, notInside, has]
  · simp [flat, notInside, has]

end Flat

section FlatAll

variable {flag? : Key → Option Bool} {scalar? : Key → Option (Value Float)}
variable {paired others : List Pair} {start : Nat} {pieces : List Piece}

theorem flatAll_cons
    (piece : Piece)
    (rest : List Piece) :
    flatAll flag? scalar? paired start (piece :: rest) =
      Located.flat flag? scalar? paired ⟨start, piece⟩ ++
        flatAll flag? scalar? paired (start + piece.source.length) rest := rfl

theorem flatAll_append
    (before after : List Piece) :
    flatAll flag? scalar? paired start (before ++ after) =
      flatAll flag? scalar? paired start before ++
        flatAll flag? scalar? paired
          (start + (before.flatMap Piece.source).length) after := by
  simp only [flatAll, Piece.locateAll_append, List.flatMap_append]

/-- Nonempty pieces begin before the end of the text. -/
theorem Piece.bounds_of_mem_locateAll
    {piece : Located Piece}
    (nonempty : ∀ piece ∈ pieces, piece.source ≠ [])
    (member : piece ∈ Piece.locateAll start pieces) :
    start ≤ piece.offset ∧
      piece.offset < start + (pieces.flatMap Piece.source).length := by
  have bounds := (Piece.standsAt_of_mem_locateAll member).bounds
  have length :=
    List.length_pos_iff.2 (nonempty _ (Piece.mem_of_mem_locateAll member))
  omega

/-- Pairs that matter nowhere among the pieces can be left out of account. -/
theorem flatAll_eq_of_subset
    (nonempty : ∀ piece ∈ pieces, piece.source ≠ [])
    (fewer : others ⊆ paired)
    (enough :
      ∀ pair ∈ paired, ∀ offset,
        pair.Matters flag? offset → start ≤ offset →
          offset < start + (pieces.flatMap Piece.source).length →
            pair ∈ others) :
    flatAll flag? scalar? paired start pieces =
      flatAll flag? scalar? others start pieces := by
  refine List.flatMap_congr ?_
  intro piece member
  obtain ⟨begins, ends⟩ := Piece.bounds_of_mem_locateAll nonempty member
  refine Located.flat_eq_of_subset fewer ?_
  intro pair paired matters
  exact enough pair paired piece.offset matters begins ends

/-- Without pairs around them, pieces other than value tags are copied. -/
theorem flatAll_nil (plain : ∀ key, .mark ⟨.value, key⟩ ∉ pieces) :
    flatAll flag? scalar? [] start pieces = pieces.flatMap Piece.source := by
  induction pieces generalizing start with
  | nil => rfl
  | cons piece rest ih =>
      have alone : ∀ key, piece ≠ .mark ⟨.value, key⟩ := by
        rintro key rfl
        exact plain key List.mem_cons_self
      have later : ∀ key, .mark ⟨.value, key⟩ ∉ rest :=
        fun key member =>
          plain key (List.mem_cons_of_mem piece member)
      have first :
          Located.flat flag? scalar? [] ⟨start, piece⟩ = piece.source :=
        Located.flat_nil alone
      rw [flatAll_cons, first, ih later, List.flatMap_cons]

end FlatAll

/-- The pairs of sections matter only within the row. -/
theorem Pair.Matters.bounds
    {flag? : Key → Option Bool}
    {pair : Pair}
    {offset start : Nat}
    {nodes : List Node}
    (matters : pair.Matters flag? offset)
    (member : pair ∈ Node.sections start nodes) :
    start ≤ offset ∧ offset < start + (Node.sourceAll nodes).length := by
  obtain ⟨node, located, found⟩ := List.mem_filterMap.1 member
  have bounds := Node.bounds_of_mem_locateAll located
  have inside := bounds_of_pair? found
  rcases matters with ⟨_, afterOpener, beforeCloser⟩ | isOpener | isCloser
  all_goals omega

section Block

variable {flag? : Key → Option Bool} {scalar? : Key → Option (Value Float)}
variable {start : Nat} {key : Key} {inverted : Bool} {children rest : List Node}

theorem Pair.bounds_around :
    start < (around start key inverted children).closer.offset ∧
      (around start key inverted children).closer.offset <
        start + (Node.block key inverted children).source.length := by
  have found : Located.pair? ⟨start, .block key inverted children⟩ =
      some (.around start key inverted children) := rfl
  exact (bounds_of_pair? found).2

/-- Of the pairs in a row that begins with a section, those inside the section
matter inside it, those of the rest matter after it, and its own matters nowhere
else. -/
theorem Pair.Matters.cases_block
    {pair : Pair}
    {offset : Nat}
    (matters : pair.Matters flag? offset)
    (member :
      pair ∈ Node.sections start (.block key inverted children :: rest)) :
    let around := Pair.around start key inverted children
    let opened := start + (Tag.mk (.opener inverted) key).source.length
    let ending := start + (Node.block key inverted children).source.length
    (pair ∈ Node.sections opened children ∧ opened ≤ offset ∧
      offset < around.closer.offset) ∨
      (pair = around ∧ offset ≤ around.closer.offset) ∨
      (pair ∈ Node.sections ending rest ∧ ending ≤ offset) := by
  intro around opened ending
  rcases (Node.mem_sections_block_iff start).1 member with inner | rfl | later
  · exact .inl ⟨inner, matters.bounds inner⟩
  · refine .inr (.inl ⟨rfl, ?_⟩)
    rcases matters with ⟨_, _, beforeCloser⟩ | isOpener | isCloser
    · exact Nat.le_of_lt beforeCloser
    · exact isOpener ▸ Nat.le_of_lt Pair.bounds_around.1
    · exact Nat.le_of_eq isCloser.symm
  · exact .inr (.inr ⟨later, (matters.bounds later).1⟩)

/-- The markers of a section give nothing if its key is bound. -/
theorem flat_of_around
    {marker : Located Tag}
    (has : (Pair.around start key inverted children).Has marker) :
    Located.flat flag? scalar?
      (Node.sections start (.block key inverted children :: rest))
        ⟨marker.offset, .mark marker.item⟩ =
      if (flag? key).isSome then [] else marker.item.source := by
  have bounds := @Pair.bounds_around start key inverted children
  have own : marker.item.key = key ∧ marker.item.role ≠ .value := by
    rcases has with rfl | rfl <;> simp [Pair.around]
  have onEdge : marker.offset = start ∨
      marker.offset =
        (Pair.around start key inverted children).closer.offset := by
    rcases has with rfl | rfl
    · exact .inl rfl
    · exact .inr rfl
  have alone : Located.flat flag? scalar? [.around start key inverted children]
      ⟨marker.offset, .mark marker.item⟩ =
        if (flag? marker.item.key).isSome then [] else marker.item.source :=
    Located.flat_of_has has own.2
  rw [own.1] at alone
  refine Eq.trans (Located.flat_eq_of_subset ?_ ?_) alone
  · intro pair member
    exact (Node.mem_sections_block_iff start).2
      (.inr (.inl (List.mem_singleton.1 member)))
  · intro pair member matters
    have length := (Tag.mk (.opener inverted) key).length_source_pos
    rcases matters.cases_block member with ⟨_, inner⟩ | ⟨same, _⟩ |
      ⟨_, later⟩
    · simp only at inner
      omega
    · exact List.mem_singleton.2 same
    · simp only at later
      omega

/-- What is inside a section gives nothing if the section is left out, and
otherwise what it gives without the section around it. -/
theorem flatAll_inside
    {inside : List Piece}
    (nonempty : ∀ piece ∈ inside, piece.source ≠ [])
    (written : Node.sourceAll children = inside.flatMap Piece.source) :
    let opened := start + (Tag.mk (.opener inverted) key).source.length
    flatAll flag? scalar?
      (Node.sections start (.block key inverted children :: rest)) opened
        inside =
      if (Pair.around start key inverted children).isLeftOut flag? then []
      else
        flatAll
          flag? scalar? (Node.sections opened children) opened inside := by
  intro opened
  have bounds := @Pair.bounds_around start key inverted children
  have length := (Tag.mk (.opener inverted) key).length_source_pos
  have place : (Pair.around start key inverted children).closer.offset =
      opened + (inside.flatMap Piece.source).length := by
    rw [← written]
    rfl
  have within :
      ∀ offset,
        opened ≤ offset →
          offset < opened + (inside.flatMap Piece.source).length →
            (Pair.around start key inverted children).Encloses offset := by
    intro offset begins ends
    have afterOpener : start < offset := by omega
    exact ⟨afterOpener, place ▸ ends⟩
  split
  · next leftOut =>
      refine List.flatMap_eq_nil_iff.2 ?_
      intro piece member
      obtain ⟨begins, ends⟩ := Piece.bounds_of_mem_locateAll nonempty member
      exact Located.flat_eq_nil
        ((Node.mem_sections_block_iff start).2 (.inr (.inl rfl))) leftOut
        (within _ begins ends)
  · next kept =>
      refine flatAll_eq_of_subset nonempty ?_ ?_
      · intro pair member
        exact (Node.mem_sections_block_iff start).2 (.inl member)
      · intro pair member offset matters begins ends
        rcases matters.cases_block member with ⟨inner, _⟩ | ⟨rfl, _⟩ |
          ⟨_, later⟩
        · exact inner
        · have encloses := within offset begins ends
          rcases matters with ⟨leftOut, _⟩ | isOpener | isCloser
          · exact absurd leftOut kept
          · exact absurd isOpener (Nat.ne_of_lt encloses.1)
          · exact absurd isCloser.symm (Nat.ne_of_lt encloses.2)
        · omega

/-- What follows a section gives what it gives without the section. -/
theorem flatAll_after
    {after : List Piece}
    (nonempty : ∀ piece ∈ after, piece.source ≠ []) :
    let ending := start + (Node.block key inverted children).source.length
    flatAll flag? scalar?
      (Node.sections start (.block key inverted children :: rest)) ending
        after =
      flatAll flag? scalar? (Node.sections ending rest) ending after := by
  intro ending
  have bounds := @Pair.bounds_around start key inverted children
  refine flatAll_eq_of_subset nonempty ?_ ?_
  · intro pair member
    exact (Node.mem_sections_block_iff start).2 (.inr (.inr member))
  · intro pair member offset matters begins ends
    rcases matters.cases_block member with ⟨_, inner⟩ | ⟨_, own⟩ |
      ⟨later, _⟩
    · omega
    · omega
    · exact later

/-- A section and what follows it give, in turn, the opening marker, what is
inside, the closing marker, and the rest. -/
theorem flatAll_block
    {inside after : List Piece}
    (fullInside : ∀ piece ∈ inside, piece.source ≠ [])
    (fullAfter : ∀ piece ∈ after, piece.source ≠ [])
    (written : Node.sourceAll children = inside.flatMap Piece.source) :
    let opener := Tag.mk (.opener inverted) key
    let closer := Tag.mk .closer key
    let opened := start + opener.source.length
    let ending := start + (Node.block key inverted children).source.length
    flatAll flag? scalar?
      (Node.sections start (.block key inverted children :: rest)) start
        (.mark opener :: (inside ++ .mark closer :: after)) =
      (if (flag? key).isSome then [] else opener.source) ++
        ((if (Pair.around start key inverted children).isLeftOut flag? then []
          else
            flatAll
              flag? scalar? (Node.sections opened children) opened inside) ++
          ((if (flag? key).isSome then [] else closer.source) ++
            flatAll
              flag? scalar? (Node.sections ending rest) ending after)) := by
  intro opener closer opened ending
  let pair := Pair.around start key inverted children
  have closing :
      opened + (inside.flatMap Piece.source).length = pair.closer.offset := by
    rw [← written]
    rfl
  have closed : pair.closer.offset + closer.source.length = ending := by
    simp [pair, closer, ending, Pair.around, Nat.add_assoc]
  rw [← flatAll_after fullAfter, ← flatAll_inside fullInside written,
    flatAll_cons, flatAll_append, flatAll_cons]
  change _ ++
    (flatAll _ _ _ opened inside ++ (Located.flat _ _ _ ⟨opened + _, _⟩ ++
    flatAll _ _ _ (opened + _ + closer.source.length) after)) = _
  have opens : pair.Has ⟨start, opener⟩ := .inl rfl
  have closes : pair.Has ⟨pair.closer.offset, closer⟩ := .inr rfl
  rw [closing, closed, flat_of_around opens, flat_of_around closes]

/-- A section of a bound key gives what is inside, unless it is left out; its
markers are written only if the key is not bound. -/
theorem render_block (start : Nat) :
    Node.render (.ofValues flag? scalar?) (.block key inverted children) =
      (if (flag? key).isSome then []
      else (Tag.mk (.opener inverted) key).source) ++
        ((if (Pair.around start key inverted children).isLeftOut flag? then []
          else Node.renderAll (.ofValues flag? scalar?) children) ++
          (if (flag? key).isSome then []
          else (Tag.mk .closer key).source)) := by
  cases bound : flag? key with
  | none =>
      simp [Node.render, Bindings.ofValues, Pair.isLeftOut, Pair.around, bound]
  | some holds =>
      simp [Node.render, Bindings.ofValues, Pair.isLeftOut, Pair.around, bound]

end Block

/-- The tree renders as the pieces that spell it do, given the pairs of its
sections. -/
theorem Spells.renderAll_eq
    {flag? : Key → Option Bool}
    {scalar? : Key → Option (Value Float)}
    {pieces : List Piece}
    {nodes : List Node}
    (spells : Spells pieces nodes)
    (nonempty : ∀ piece ∈ pieces, piece.source ≠ [])
    (start : Nat) :
    Node.renderAll (.ofValues flag? scalar?) nodes =
      flatAll flag? scalar? (Node.sections start nodes) start pieces := by
  induction spells generalizing start with
  | nil => rfl
  | @text segment later rest plain spells ih =>
      obtain ⟨fullSegment, fullLater⟩ := List.forall_mem_append.1 nonempty
      have copied : flatAll flag? scalar?
          (Node.sections (start + (segment.flatMap Piece.source).length) rest)
            start segment =
            segment.flatMap Piece.source := by
        refine Eq.trans
          (flatAll_eq_of_subset fullSegment (List.nil_subset _) ?_)
          (flatAll_nil plain)
        intro pair member offset matters begins ends
        have bounds := matters.bounds member
        omega
      rw [flatAll_append, Node.sections_text, copied, ← ih fullLater]
      rfl
  | @value later rest key spells ih =>
      obtain ⟨full, fullLater⟩ := List.forall_mem_cons.1 nonempty
      have substituted : Located.flat flag? scalar?
          (Node.sections (start + (Tag.mk .value key).source.length) rest)
            ⟨start, .mark ⟨.value, key⟩⟩ =
            Node.render (.ofValues flag? scalar?) (.value key) := by
        refine Eq.trans (Located.flat_eq_of_subset (List.nil_subset _) ?_)
          (Located.flat_value start key)
        intro pair member matters
        have bounds := matters.bounds member
        have length := (Tag.mk .value key).length_source_pos
        simp only at bounds
        omega
      rw [flatAll_cons, Node.sections_value, substituted]
      exact congrArg _ (ih fullLater _)
  | @block inside after children rest key inverted inner spells insideIh ih =>
      obtain ⟨_, fullAll⟩ := List.forall_mem_cons.1 nonempty
      obtain ⟨fullInside, fullAll⟩ := List.forall_mem_append.1 fullAll
      obtain ⟨_, fullAfter⟩ := List.forall_mem_cons.1 fullAll
      rw [flatAll_block fullInside fullAfter inner.sourceAll_eq,
        ← insideIh fullInside, ← ih fullAfter, Node.renderAll,
          render_block start]
      simp only [List.append_assoc]

/-- A text renders as its pieces do, given its pairs. -/
theorem render_ofString_eq_flatAll
    (flag? : Key → Option Bool)
    (scalar? : Key → Option (Value Float))
    (text : String) :
    (Stencil.ofString text).render (.ofValues flag? scalar?) =
      String.ofList
        (flatAll flag? scalar? (pairs text.toList) 0 (pieces text.toList)) := by
  have rendered :
      Node.renderAll (.ofValues flag? scalar?) (nodesOf text.toList) =
      flatAll flag? scalar? (Node.sections 0 (nodesOf text.toList)) 0
        (pieces text.toList) :=
    (spells_nodesOf text.toList).renderAll_eq
      (fun _ => source_ne_nil_of_mem_pieces) 0
  rw [← sections_nodesOf, ← rendered]
  rfl

end Stencil
end BlackHoleScene
