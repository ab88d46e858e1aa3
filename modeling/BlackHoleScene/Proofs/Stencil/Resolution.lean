import BlackHoleScene.Proofs.Stencil.Canonical
import BlackHoleScene.Proofs.Stencil.ReadBack
import BlackHoleScene.Proofs.Stencil.Sections
import Mathlib.Data.List.Infix

/-!
# Resolving flags one after the other

Rendering under flags alone leaves a text that can be rendered again. Its
sections of unbound keys are those that the tree of the text keeps,
`Node.resolved`, provided that no marker is without a partner and that the plain
text in front of a tag is calm: then neither a section that is left out nor a
marker that is erased brings braces together to a new tag. So the order in which
flags are resolved does not matter, and the scalars may come last: `pass_pass`.
-/

namespace BlackHoleScene

/-- Flags without scalars. -/
def Bindings.ofFlags (flag? : Stencil.Key → Option Bool) : Bindings where
  flag? := flag?
  scalar? := fun _ => none

/-- Bindings that leave to others only the flags that these do not bind. -/
def Bindings.withFlags
    (bindings : Bindings)
    (flag? : Stencil.Key → Option Bool) : Bindings where
  flag? := fun key => (flag? key).or (bindings.flag? key)
  scalar? := bindings.scalar?

namespace Stencil

/-! ### Calm text -/

/-- The characters hold no two opening braces in a row and do not end in one. -/
def Calm (characters : List Char) : Prop :=
  ¬['{', '{'] <:+: characters ∧ characters.getLast? ≠ some '{'

instance (characters : List Char) : Decidable (Calm characters) := by
  unfold Calm
  infer_instance

namespace Calm

variable {first second : List Char}

/-- What begins with two opening braces does not begin in calm text. -/
theorem isInfix_of_append
    (calm : Calm first)
    {rest : List Char}
    (occurs : '{' :: '{' :: rest <:+: first ++ second) :
    '{' :: '{' :: rest <:+: second := by
  obtain ⟨before, after, written⟩ := occurs
  rw [List.append_assoc] at written
  rcases List.append_eq_append_iff.1 written with ⟨inside, cut, begun⟩ |
    ⟨between, _, left⟩
  · rcases inside with _ | ⟨brace, _ | ⟨other, inside⟩⟩
    · exact ⟨[], after, by simpa using begun⟩
    · obtain ⟨rfl, _⟩ :
          '{' = brace ∧ '{' :: (rest ++ after) = second := by
        simpa using begun
      exact absurd (by simp [cut]) calm.2
    · obtain ⟨rfl, rfl, _⟩ :
          '{' = brace ∧ '{' = other ∧ rest ++ after = inside ++ second := by
        simpa using begun
      exact absurd ⟨before, inside, by simp [cut]⟩ calm.1
  · exact ⟨between, after, by rw [List.append_assoc]; exact left.symm⟩

/-- Calm text stays so when calm text follows. -/
theorem append
    (left : Calm first)
    (right : Calm second) :
    Calm (first ++ second) := by
  refine ⟨fun occurs => right.1 (left.isInfix_of_append occurs), ?_⟩
  have unended := right.2
  rw [List.getLast?_append]
  cases ended : second.getLast? with
  | none => exact left.2
  | some last => rwa [ended] at unended

/-- No tag comes about when text without a tag follows calm text. -/
theorem append_tagless
    (left : Calm first)
    (right : Tagless second) :
    Tagless (first ++ second) :=
  fun tag occurs => right tag (left.isInfix_of_append occurs)

/-- There is no tag in calm text. -/
theorem tagless (calm : Calm first) : Tagless first := by
  intro tag occurs
  exact calm.1 (List.IsInfix.trans ⟨[], tag.body, rfl⟩ occurs)

end Calm

/-- The empty text holds no tag. -/
theorem tagless_nil : Tagless [] := tagless_of_length_lt (by decide)

namespace Node

/-! ### Texts of rows -/

/-- The texts of a row are the same from its end. -/
theorem mem_textsAll_reverse
    {nodes : List Node}
    {characters : List Char} :
    characters ∈ textsAll nodes.reverse ↔
      characters ∈ textsAll nodes := by
  induction nodes with
  | nil => rfl
  | cons node rest ih =>
      rw [List.reverse_cons, textsAll_append, List.mem_append, ih]
      simp [textsAll, or_comm]

/-- Every text of a row is located. -/
theorem exists_mem_locateAll_of_mem_textsAll
    {nodes : List Node}
    {characters : List Char}
    (member : characters ∈ textsAll nodes)
    (start : Nat) :
    ∃ offset, ⟨offset, .text characters⟩ ∈ locateAll start nodes := by
  induction nodes using rowInduction generalizing start with
  | nil => cases member
  | text first rest ih =>
      rcases List.mem_cons.1 member with rfl | later
      · exact ⟨start, List.mem_cons_self⟩
      · obtain ⟨offset, located⟩ := ih later (start + first.length)
        exact ⟨offset, List.mem_cons_of_mem _ located⟩
  | value key rest ih =>
      obtain ⟨offset, located⟩ :=
        ih member (start + (Tag.mk .value key).source.length)
      exact ⟨offset, List.mem_cons_of_mem _ located⟩
  | block key inverted children rest inside ih =>
      simp only [locateAll_block, List.mem_append, List.mem_cons]
      rcases List.mem_append.1 member with inner | later
      · obtain ⟨offset, located⟩ :=
          inside inner (start + (Tag.mk (.opener inverted) key).source.length)
        exact ⟨offset, .inl located⟩
      · obtain ⟨offset, located⟩ :=
          ih later (start + (block key inverted children).source.length)
        exact ⟨offset, .inr (.inr located)⟩

/-- What holds of the texts of a row and of pushed text, alone and joined to a
text of the row, holds of all texts once it is pushed. -/
theorem forall_mem_textsAll_pushText
    {p : List Char → Prop}
    {row : List Node}
    {characters : List Char}
    (earlier : ∀ text ∈ textsAll row, p text)
    (alone : p characters)
    (joined : ∀ text ∈ textsAll row, p (text ++ characters)) :
    ∀ text ∈ textsAll (pushText characters row), p text := by
  rw [pushText.eq_def]
  split
  · exact earlier
  · refine List.forall_mem_cons.2 ⟨joined _ List.mem_cons_self, ?_⟩
    exact (List.forall_mem_cons.1 earlier).2
  · exact List.forall_mem_cons.2 ⟨alone, earlier⟩

/-- Text may be pushed in parts. -/
theorem pushText_append
    (first second : List Char)
    (row : List Node) :
    pushText (first ++ second) row = pushText second (pushText first row) := by
  rcases first with _ | ⟨c, first⟩
  · rfl
  · rcases second with _ | ⟨d, second⟩
    · rw [List.append_nil]
      rfl
    · rcases row with _ | ⟨_ | _ | _, rest⟩ <;> simp [pushText]

/-! ### Resolving flags -/

mutual

/-- Push what flags leave of a node: a section of a bound key gives its place to
what is inside it, or to nothing. -/
def resolve (flag? : Key → Option Bool) : Node → List Node → List Node
  | .text characters, row => pushText characters row
  | .value key, row => .value key :: row
  | .block key inverted children, row =>
      match flag? key with
      | some holds =>
          if holds = inverted then row else resolveAll flag? children row
      | none =>
          .block key inverted (resolveAll flag? children []).reverse :: row

/-- Push what flags leave of nodes, one after the other. -/
def resolveAll (flag? : Key → Option Bool) :
    List Node → List Node → List Node
  | [], row => row
  | node :: rest, row => resolveAll flag? rest (node.resolve flag? row)

end

/-- What flags leave of a row. -/
def resolved (flag? : Key → Option Bool) (nodes : List Node) : List Node :=
  (resolveAll flag? nodes []).reverse

section Resolve

variable (flag? : Key → Option Bool)

@[simp] theorem resolveAll_nil (row : List Node) :
    resolveAll flag? [] row = row := rfl

@[simp] theorem resolveAll_cons
    (node : Node)
    (rest row : List Node) :
    resolveAll flag? (node :: rest) row =
      resolveAll flag? rest (node.resolve flag? row) := rfl

@[simp] theorem resolve_text
    (characters : List Char)
    (row : List Node) :
    (text characters).resolve flag? row = pushText characters row := rfl

@[simp] theorem resolve_value
    (key : Key)
    (row : List Node) :
    (value key).resolve flag? row = .value key :: row := rfl

theorem resolve_block
    (key : Key)
    (inverted : Bool)
    (children row : List Node) :
    (block key inverted children).resolve flag? row =
      match flag? key with
      | some holds =>
          if holds = inverted then row else resolveAll flag? children row
      | none => .block key inverted (resolved flag? children) :: row := rfl

theorem resolveAll_append (before after row : List Node) :
    resolveAll flag? (before ++ after) row =
      resolveAll flag? after (resolveAll flag? before row) := by
  induction before generalizing row with
  | nil => rfl
  | cons node rest ih => exact ih _

/-- Text at the end of a row is left at the end. -/
theorem resolveAll_pushText
    (characters : List Char)
    (row : List Node) :
    resolveAll flag? (pushText characters row).reverse [] =
      pushText characters (resolveAll flag? row.reverse []) := by
  rw [pushText.eq_def]
  split
  · rfl
  · simp [resolveAll_append, pushText_append]
  · simp [resolveAll_append]

end Resolve

/-! ### Rendering what is left -/

section Render

variable (bindings : Bindings)

@[simp] theorem renderAll_nil : renderAll bindings [] = [] := rfl

@[simp] theorem renderAll_cons
    (node : Node)
    (rest : List Node) :
    renderAll bindings (node :: rest) =
      node.render bindings ++ renderAll bindings rest := rfl

@[simp] theorem renderAll_append (before after : List Node) :
    renderAll bindings (before ++ after) =
      renderAll bindings before ++ renderAll bindings after := by
  induction before with
  | nil => rfl
  | cons node rest ih => simp [ih]

@[simp] theorem render_text (characters : List Char) :
    (text characters).render bindings = characters := rfl

/-- Text renders alike in one text and in two. -/
theorem renderAll_merged
    {bindings : Bindings}
    {nodes merged : List Node}
    (merges : Merges nodes merged) :
    renderAll bindings merged = renderAll bindings nodes := by
  induction merges with
  | refl nodes => rfl
  | trans left right first second => rw [second, first]
  | append left right first second =>
      rw [renderAll_append, renderAll_append, first, second]
  | join earlier later => simp
  | empty => rfl

/-- Without bindings a row is rendered as it is written. -/
theorem renderAll_unbound (nodes : List Node) :
    renderAll (.ofFlags fun _ => none) nodes = sourceAll nodes := by
  induction nodes using rowInduction with
  | nil => rfl
  | text characters rest ih => rw [renderAll_cons, ih]; rfl
  | value key rest ih => rw [renderAll_cons, ih]; rfl
  | block key inverted children rest inside ih =>
      rw [renderAll_cons, ih, sourceAll_cons, source_block, ← inside]
      rfl

/-- What flags leave is rendered as the whole is once these flags are bound as
well. -/
theorem renderAll_resolveAll
    (flag? : Key → Option Bool)
    (nodes row : List Node) :
    renderAll bindings (resolveAll flag? nodes row).reverse =
      renderAll bindings row.reverse ++
        renderAll (bindings.withFlags flag?) nodes := by
  induction nodes using rowInduction generalizing row with
  | nil => simp
  | text characters rest ih =>
      rw [resolveAll_cons, ih, resolve_text,
        renderAll_merged (merges_pushText characters row)]
      simp
  | value key rest ih =>
      rw [resolveAll_cons, ih]
      simp [render, Bindings.withFlags]
  | block key inverted children rest inside ih =>
      rw [resolveAll_cons, ih, resolve_block, renderAll_cons]
      have children := inside []
      cases bound : flag? key with
      | none =>
          cases other : bindings.flag? key with
          | none => simp_all [render, Bindings.withFlags, resolved]
          | some holds => by_cases leftOut : holds = inverted <;>
              simp_all [render, Bindings.withFlags, resolved]
      | some holds =>
          by_cases leftOut : holds = inverted
          · simp [render, Bindings.withFlags, bound, leftOut]
          · simp [render, Bindings.withFlags, bound, leftOut, inside]

theorem renderAll_resolved
    (flag? : Key → Option Bool)
    (nodes : List Node) :
    renderAll bindings (resolved flag? nodes) =
      renderAll (bindings.withFlags flag?) nodes :=
  renderAll_resolveAll bindings flag? nodes []

/-- What flags leave is written as the whole is rendered. -/
theorem sourceAll_resolved
    (flag? : Key → Option Bool)
    (nodes : List Node) :
    sourceAll (resolved flag? nodes) = renderAll (.ofFlags flag?) nodes := by
  rw [← renderAll_unbound, renderAll_resolved]
  simp [Bindings.withFlags, Bindings.ofFlags]

end Render

/-! ### Rows that may be resolved -/

/-- The row, newest first, is tidy, and its texts are calm. -/
structure CalmRow (row : List Node) : Prop where
  tidy : TidyRow row
  calm : ∀ characters ∈ textsAll row, Calm characters

namespace CalmRow

variable {row nodes : List Node}

theorem nil : CalmRow [] := ⟨.nil, by simp⟩

/-- Calm text may be pushed. -/
theorem pushText
    (calmRow : CalmRow row)
    {characters : List Char}
    (calm : Calm characters) :
    CalmRow (pushText characters row) where
  tidy := calmRow.tidy.pushText characters
  calm := by
    apply forall_mem_textsAll_pushText calmRow.calm calm
    intro earlier member
    exact (calmRow.calm earlier member).append calm

/-- What flags leave of calm nodes may be pushed. -/
theorem resolveAll
    (calmRow : CalmRow row)
    (flag? : Key → Option Bool)
    (calm : ∀ characters ∈ textsAll nodes, Calm characters) :
    CalmRow (resolveAll flag? nodes row) := by
  induction nodes using rowInduction generalizing row with
  | nil => exact calmRow
  | text characters rest ih =>
      obtain ⟨first, later⟩ := List.forall_mem_cons.1 calm
      exact ih (calmRow.pushText first) later
  | value key rest ih =>
      exact ih
        ⟨calmRow.tidy.cons trivial fun _ => trivial, calmRow.calm⟩ calm
  | block key inverted children rest inside ih =>
      obtain ⟨calmInside, later⟩ := List.forall_mem_append.1 calm
      rw [resolveAll_cons, resolve_block]
      cases flag? key with
      | some holds =>
          by_cases leftOut : holds = inverted
          · simpa [leftOut] using ih calmRow later
          · simpa [leftOut] using ih (inside calmRow calmInside) later
      | none =>
          obtain ⟨tidyInside, calmLeft⟩ := inside nil calmInside
          refine ih ⟨calmRow.tidy.cons ?_ fun _ => trivial, ?_⟩ later
          · exact tidy_block_iff.2 tidyInside.reverse
          · apply List.forall_mem_append.2 ⟨?_, calmRow.calm⟩
            intro characters member
            exact calmLeft characters (mem_textsAll_reverse.1 member)

end CalmRow

/-- The row is tidy, and its texts are calm, but for text at the end that holds
no tag. -/
def Settled (nodes : List Node) : Prop :=
  ∃ row last,
    CalmRow row ∧ Tagless last ∧ nodes = (pushText last row).reverse

namespace Settled

variable {nodes : List Node}

/-- A settled row is read back from its written form. -/
theorem nodesOf_sourceAll
    (settled : Settled nodes) :
    nodesOf (sourceAll nodes) = nodes := by
  obtain ⟨row, last, calmRow, tagless, rfl⟩ := settled
  apply Node.nodesOf_sourceAll (calmRow.tidy.pushText last).reverse
  intro characters member
  revert characters
  simp only [mem_textsAll_reverse]
  apply forall_mem_textsAll_pushText
  · intro earlier member
    exact (calmRow.calm earlier member).tagless
  · exact tagless
  · intro earlier member
    exact (calmRow.calm earlier member).append_tagless tagless

/-- What flags leave of a settled row is settled. -/
theorem resolved
    (settled : Settled nodes)
    (flag? : Key → Option Bool) :
    Settled (resolved flag? nodes) := by
  obtain ⟨row, last, calmRow, tagless, rfl⟩ := settled
  refine ⟨resolveAll flag? row.reverse [], last, ?_, tagless, ?_⟩
  · apply CalmRow.nil.resolveAll
    intro characters member
    exact calmRow.calm characters (mem_textsAll_reverse.1 member)
  · rw [Node.resolved, resolveAll_pushText]

/-- The text that a settled row is rendered to under flags reads as what they
leave. -/
theorem nodesOf_renderAll
    (settled : Settled nodes)
    (flag? : Key → Option Bool) :
    nodesOf (renderAll (.ofFlags flag?) nodes) = Node.resolved flag? nodes := by
  rw [← sourceAll_resolved, (settled.resolved flag?).nodesOf_sourceAll]

end Settled

/-- A text of a tidy row is written in front of a tag, or ends the row. -/
theorem TidyRow.before_tag_or_last
    {nodes : List Node}
    {characters : List Char}
    (tidy : TidyRow nodes)
    (member : characters ∈ textsAll nodes) :
    (∃ before tag after,
      writtenPiecesAll nodes =
        before ++ .gap characters :: .mark tag :: after) ∨
      ∃ body, nodes = body ++ [.text characters] := by
  induction nodes using rowInduction with
  | nil => cases member
  | text first rest ih =>
      rcases List.mem_cons.1 member with rfl | later
      · rcases rest with _ |
          ⟨_ | key | ⟨key, inverted, children⟩, others⟩
        · exact .inr ⟨[], rfl⟩
        · exact absurd ((List.isChain_cons.1 tidy.apart).1 _ rfl) id
        · exact .inl ⟨[], _, _, rfl⟩
        · exact .inl
            ⟨[], _, _,
              by rw [writtenPiecesAll_text, writtenPiecesAll_block]; rfl⟩
      · rcases ih tidy.tail later with ⟨before, tag, after, cut⟩ |
          ⟨body, rfl⟩
        · exact .inl
            ⟨_ :: before, tag, after,
              by rw [writtenPiecesAll_text, cut]; rfl⟩
        · exact .inr ⟨_ :: body, rfl⟩
  | value key rest ih =>
      rcases ih tidy.tail member with ⟨before, tag, after, cut⟩ |
        ⟨body, rfl⟩
      · exact .inl
          ⟨_ :: before, tag, after,
            by rw [writtenPiecesAll_value, cut]; rfl⟩
      · exact .inr ⟨_ :: body, rfl⟩
  | block key inverted children rest inside ih =>
      have tidyInside : TidyRow children :=
        tidy_block_iff.1 (tidy.each _ List.mem_cons_self)
      let opener : Piece := .mark ⟨.opener inverted, key⟩
      let closer : Piece := .mark ⟨.closer, key⟩
      rcases List.mem_append.1 member with inner | later
      · left
        rcases inside tidyInside inner with ⟨before, tag, after, cut⟩ |
          ⟨body, rfl⟩
        · refine ⟨opener :: before, tag,
            after ++ closer :: writtenPiecesAll rest, ?_⟩
          simp [cut, opener, closer]
        · refine ⟨opener :: writtenPiecesAll body, ⟨.closer, key⟩,
            writtenPiecesAll rest, ?_⟩
          simp [writtenPiecesAll_append, opener]
      · rcases ih tidy.tail later with ⟨before, tag, after, cut⟩ |
          ⟨body, rfl⟩
        · left
          refine ⟨opener :: (writtenPiecesAll children ++ closer :: before),
            tag, after, ?_⟩
          simp [cut, opener, closer]
        · exact .inr ⟨_ :: body, rfl⟩

/-- The texts of the first part of a tidy row are calm, if those written in
front of a tag are and no text ends that part. -/
theorem TidyRow.calm_of_append
    {body rest : List Node}
    (tidy : TidyRow (body ++ rest))
    (unended : ∀ earlier characters, body ≠ earlier ++ [.text characters])
    (calm :
      ∀ before characters tag after,
        writtenPiecesAll (body ++ rest) =
          before ++ .gap characters :: .mark tag :: after →
          Calm characters) :
    ∀ characters ∈ textsAll body, Calm characters := by
  intro characters member
  have tidyBody : TidyRow body :=
    ⟨(List.forall_mem_append.1 tidy.each).1,
      (List.isChain_append.1 tidy.apart).1⟩
  rcases tidyBody.before_tag_or_last member with ⟨before, tag, after, cut⟩ |
    ⟨earlier, ends⟩
  · apply calm before characters tag (after ++ writtenPiecesAll rest)
    simp [writtenPiecesAll_append, cut]
  · exact absurd ends (unended earlier characters)

/-- A tidy row is settled if its texts hold no tags, and those written in front
of a tag are calm. -/
theorem TidyRow.settled
    {nodes : List Node}
    (tidy : TidyRow nodes)
    (tagless : ∀ characters ∈ textsAll nodes, Tagless characters)
    (calm :
      ∀ before characters tag after,
        writtenPiecesAll nodes =
          before ++ .gap characters :: .mark tag :: after →
          Calm characters) :
    Settled nodes := by
  have calmReverse :
      ∀ {body : List Node},
        (∀ characters ∈ textsAll body, Calm characters) →
          ∀ characters ∈ textsAll body.reverse, Calm characters := by
    intro body each characters member
    exact each characters (mem_textsAll_reverse.1 member)
  by_cases ends : ∃ body last, nodes = body ++ [.text last]
  · obtain ⟨body, last, rfl⟩ := ends
    obtain ⟨chain, _, joins⟩ := List.isChain_append.1 tidy.apart
    obtain ⟨each, lastTidy⟩ := List.forall_mem_append.1 tidy.each
    have unended :
        ∀ earlier characters, body ≠ earlier ++ [.text characters] := by
      rintro earlier characters rfl
      exact joins (.text characters) (by simp) _ rfl
    have tidyBody : TidyRow body.reverse := TidyRow.reverse ⟨each, chain⟩
    refine ⟨body.reverse, last,
      ⟨tidyBody, calmReverse (tidy.calm_of_append unended calm)⟩, ?_, ?_⟩
    · exact tagless last (by simp)
    · have pushed :
          Stencil.pushText last body.reverse = .text last :: body.reverse := by
        apply push_eq_cons (lastTidy _ List.mem_cons_self)
        intro other isLast
        exact joins other (by simpa using isLast) _ rfl
      simp [pushed]
  · have unended :
        ∀ earlier characters, nodes ≠ earlier ++ [.text characters] := by
      intro earlier characters equal
      exact ends ⟨earlier, characters, equal⟩
    have whole : TidyRow (nodes ++ []) := by simpa
    have calmNodes : ∀ characters ∈ textsAll nodes, Calm characters :=
      whole.calm_of_append unended (by simpa using calm)
    exact ⟨nodes.reverse, [], ⟨tidy.reverse, calmReverse calmNodes⟩,
      tagless_nil, nodes.reverse_reverse.symm⟩

end Node

/-! ### Texts that may be resolved -/

/-- No text among the nodes of a text holds a tag, if every marker of the text
belongs to a pair. -/
theorem tagless_of_mem_textsAll_nodesOf
    {text characters : List Char}
    (paired :
      ∀ marker ∈ markers text, ∃ pair ∈ pairs text, pair.Has marker)
    (member : characters ∈ Node.textsAll (nodesOf text)) :
    Tagless characters := by
  intro tag occurs
  obtain ⟨offset, located⟩ :=
    Node.exists_mem_locateAll_of_mem_textsAll member 0
  by_cases isValue : tag.role = .value
  · obtain ⟨role, key⟩ := tag
    obtain rfl : role = .value := isValue
    exact not_isInfix_of_mem_nodesOf located key occurs
  · obtain ⟨earlier, later, rfl⟩ := occurs
    obtain ⟨before, after, written, place⟩ :=
      standsAt_of_mem_nodesOf located
    have whole :
        text = (before ++ earlier) ++ (tag.source ++ (later ++ after)) := by
      simpa using written
    let marker : Located Tag := ⟨(before ++ earlier).length, tag⟩
    have isMarker : marker ∈ markers text :=
      mem_markersOf_iff.2 ⟨isValue, mem_locateAll_of_occurs whole⟩
    have stands :
        StandsAt marker.offset tag.source offset
          (earlier ++ tag.source ++ later) := by
      have begins : offset = before.length := by simpa using place
      exact ⟨earlier, later, by simp, by simp [marker, begins]⟩
    obtain ⟨pair, member, has⟩ := paired marker isMarker
    exact (forall_not_has_iff_exists_text isMarker).2
      ⟨offset, _, located, stands⟩ pair member has

/-- The nodes of a text are settled if every marker belongs to a pair, and the
plain text in front of tags is calm. -/
theorem settled_nodesOf
    {text : List Char}
    (paired :
      ∀ marker ∈ markers text, ∃ pair ∈ pairs text, pair.Has marker)
    (calm :
      ∀ before characters tag after,
        pieces text = before ++ .gap characters :: .mark tag :: after →
          Calm characters) :
    Node.Settled (nodesOf text) := by
  have tidy : Node.TidyRow (nodesOf text) := Node.tidyRow_nodesOf text
  have tagless :
      ∀ characters ∈ Node.textsAll (nodesOf text), Tagless characters :=
    fun _ => tagless_of_mem_textsAll_nodesOf paired
  have cut := Node.pieces_sourceAll tidy tagless
  rw [sourceAll_nodesOf] at cut
  apply tidy.settled tagless
  rwa [← cut]

/-- One pass over a text: it is read, and rendered under bindings. -/
def pass (bindings : Bindings) (text : String) : String :=
  (ofString text).render bindings

@[simp] theorem toList_pass
    (bindings : Bindings)
    (text : String) :
    (pass bindings text).toList =
      Node.renderAll bindings (nodesOf text.toList) :=
  String.toList_ofList

section Passes

variable {text : String} (settled : Node.Settled (nodesOf text.toList))
include settled

/-- What a pass that resolves flags gives reads as what these flags leave. -/
theorem nodesOf_pass (flag? : Key → Option Bool) :
    nodesOf (pass (.ofFlags flag?) text).toList =
      Node.resolved flag? (nodesOf text.toList) := by
  rw [toList_pass, settled.nodesOf_renderAll]

/-- A pass after one that resolves flags gives what one pass gives with these
flags bound as well. -/
theorem pass_pass_ofFlags
    (bindings : Bindings)
    (flag? : Key → Option Bool) :
    pass bindings (pass (.ofFlags flag?) text) =
      pass (bindings.withFlags flag?) text := by
  apply String.toList_injective
  rw [toList_pass, nodesOf_pass settled, Node.renderAll_resolved, toList_pass]

end Passes

/-- A single flag. -/
def onlyFlag (key : Key) (holds : Bool) : Bindings :=
  .ofFlags fun other => if other = key then some holds else none

/-- Passes that resolve flags one after the other. -/
def passes (flags : List (Key × Bool)) (text : String) : String :=
  flags.foldl (fun reached flag => pass (onlyFlag flag.1 flag.2) reached) text

/-- A pass after passes that resolve flags gives what one pass gives with all of
these flags bound as well. -/
theorem pass_passes
    {text : String}
    (settled : Node.Settled (nodesOf text.toList))
    (bindings : Bindings)
    (flags : List (Key × Bool)) :
    pass bindings (passes flags text) =
      pass (bindings.withFlags fun key => flags.lookup key) text := by
  induction flags generalizing text with
  | nil => rfl
  | cons flag rest ih =>
      obtain ⟨key, holds⟩ := flag
      have left :
          Node.Settled (nodesOf (pass (onlyFlag key holds) text).toList) := by
        rw [onlyFlag, nodesOf_pass settled]
        exact settled.resolved _
      have one := ih left
      rw [onlyFlag, pass_pass_ofFlags settled] at one
      change pass bindings (passes rest (pass (onlyFlag key holds) text)) = _
      rw [onlyFlag, one]
      congr 1
      simp only [Bindings.withFlags, Bindings.mk.injEq, and_true]
      funext other
      rw [List.lookup_cons]
      by_cases same : other = key
      · simp [same]
      · simp [same, beq_false_of_ne same]

/-- If all markers of a text are paired, with calm text in front of its tags,
flags may be resolved in passes of their own, in any order, and then the
scalars: a single pass gives the same. -/
theorem pass_pass
    {text : String}
    (paired :
      ∀ marker ∈ markers text.toList, ∃ pair ∈ pairs text.toList,
        pair.Has marker)
    (calm :
      ∀ before characters tag after,
        pieces text.toList = before ++ .gap characters :: .mark tag :: after →
          Calm characters) :
    (∀ (first second : Key → Option Bool)
      (scalar? : Key → Option (List Char)),
      pass ⟨second, scalar?⟩ (pass (.ofFlags first) text) =
        pass ⟨fun key => (first key).or (second key), scalar?⟩ text) ∧
    ∀ (flag? : Key → Option Bool) (scalar? : Key → Option (List Char))
      (order : List (Key × Bool)),
      (∀ key, order.lookup key = flag? key) →
        pass ⟨fun _ => none, scalar?⟩ (passes order text) =
          pass ⟨flag?, scalar?⟩ text := by
  have settled := settled_nodesOf paired calm
  refine ⟨?groups, ?single⟩
  case groups =>
    intro first second scalar?
    exact pass_pass_ofFlags settled ⟨second, scalar?⟩ first
  case single =>
    intro flag? scalar? order lists
    rw [pass_passes settled]
    congr 1
    simp only [Bindings.withFlags, Option.or_none, Bindings.mk.injEq, and_true]
    funext key
    exact lists key

/-- A text with sections inside each other and braces around their tags. -/
def nestedText : String :=
  let n : Key := ⟨['n'], rfl⟩
  let p : Key := ⟨['p'], rfl⟩
  let q : Key := ⟨['q'], rfl⟩
  source ⟨
    [.text ['{', 'a'],
      .block p false
        [.text ['b', '}', '}'], .block q true [.text ['c'], .value n],
          .block p false [], .text ['{', 'd']],
      .text ['}', 'e']]⟩

/-- The inner and the outer flag of the text may be resolved in this order, and
then the scalar. -/
theorem pass_pass_nestedText :
    let p : Key := ⟨['p'], rfl⟩
    let q : Key := ⟨['q'], rfl⟩
    let scalar? : Key → Option (List Char) := fun _ => some ['7']
    (∀ marker ∈ markers nestedText.toList,
      ∃ pair ∈ pairs nestedText.toList, pair.Has marker) ∧
    (∀ before characters tag after,
      pieces nestedText.toList =
        before ++ .gap characters :: .mark tag :: after →
        Calm characters) ∧
    pass ⟨fun key => [(p, true)].lookup key, scalar?⟩
        (pass (.ofFlags fun key => [(q, false)].lookup key) nestedText) =
      pass
        ⟨fun key => ([(q, false)].lookup key).or ([(p, true)].lookup key),
          scalar?⟩ nestedText ∧
    pass ⟨fun _ => none, scalar?⟩
      (passes [(q, false), (p, true)] nestedText) =
      pass ⟨fun key => [(q, false), (p, true)].lookup key, scalar?⟩
        nestedText := by
  intro p q scalar?
  have paired : ∀ marker ∈ markers nestedText.toList,
      ∃ pair ∈ pairs nestedText.toList, pair.Has marker := by
    decide +kernel
  have gaps : ∀ characters, .gap characters ∈ pieces nestedText.toList →
      characters ∈
        [['{', 'a'], ['b', '}', '}'], ['c'], ['{', 'd'], ['}', 'e']] := by
    let n : Key := ⟨['n'], rfl⟩
    have cut : pieces nestedText.toList =
        [.gap ['{', 'a'], .mark ⟨.opener false, p⟩, .gap ['b', '}', '}'],
          .mark ⟨.opener true, q⟩, .gap ['c'], .mark ⟨.value, n⟩,
          .mark ⟨.closer, q⟩,
          .mark ⟨.opener false, p⟩, .mark ⟨.closer, p⟩, .gap ['{', 'd'],
          .mark ⟨.closer, p⟩,
          .gap ['}', 'e']] := by
      decide +kernel
    rw [cut]
    intro characters member
    simpa using member
  have calm : ∀ before characters tag after,
      pieces nestedText.toList =
        before ++ .gap characters :: .mark tag :: after →
        Calm characters := by
    intro before characters tag after cut
    have member := gaps characters (by simp [cut])
    clear cut
    revert characters
    decide
  obtain ⟨groups, single⟩ := pass_pass paired calm
  exact ⟨paired, calm, groups _ _ scalar?, single _ scalar? _ fun _ => rfl⟩

end Stencil
end BlackHoleScene
