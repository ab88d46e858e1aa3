/-!
# Tags

A stencil is program text with tags in it. A tag is a key between double braces,
with at most one sigil in front of the key: no sigil asks for the scalar bound
to the key, `#` opens a section kept when the flag bound to the key is true, `^`
one kept when it is false, and `/` closes a section.

`Tag.read?` finds the tag at the start of a text. `Tag.read?_eq_some_iff` says
that it finds exactly the written forms: a text starts with at most one tag, and
the tag it starts with determines what follows.
-/

namespace BlackHoleScene
namespace Stencil

/-- A character that a key may start with: an ASCII letter or an underscore. -/
def isKeyStart (c : Char) : Bool :=
  ('a' ≤ c && c ≤ 'z') || ('A' ≤ c && c ≤ 'Z') || c == '_'

/-- A character that a key may go on with: those it may start with, digits and
points. -/
def isKeyPart (c : Char) : Bool :=
  isKeyStart c || ('0' ≤ c && c ≤ '9') || c == '.'

/-- The characters form a key. -/
def isKey : List Char → Bool
  | [] => false
  | c :: rest => isKeyStart c && rest.all isKeyPart

/-- The name that a tag refers to. -/
structure Key where
  characters : List Char
  isKey_characters : isKey characters = true
  deriving DecidableEq

namespace Key

/-- The key at the start of a text, as long as possible, and what follows it. -/
def read? (text : List Char) : Option (Key × List Char) :=
  if h : isKey (text.takeWhile isKeyPart) then
    some (⟨text.takeWhile isKeyPart, h⟩, text.dropWhile isKeyPart)
  else none

/-- The name of a key. -/
def name (key : Key) : String := String.ofList key.characters

end Key

/-- What a tag is for. -/
inductive Role
  /-- Replaced by the scalar bound to the key. -/
  | value
  /-- Opens a section, kept when the flag is true, or false if `inverted`. -/
  | opener (inverted : Bool)
  /-- Closes the section of the key. -/
  | closer
  deriving DecidableEq

namespace Role

/-- The sigil that marks a role. -/
def sigil : Role → List Char
  | .value => []
  | .opener false => ['#']
  | .opener true => ['^']
  | .closer => ['/']

/-- The role that the start of a text marks, and what follows the sigil. -/
def read : List Char → Role × List Char
  | '#' :: rest => (.opener false, rest)
  | '^' :: rest => (.opener true, rest)
  | '/' :: rest => (.closer, rest)
  | rest => (.value, rest)

end Role

/-- A key in double braces, with the role that its sigil gives it. -/
structure Tag where
  role : Role
  key : Key
  deriving DecidableEq

namespace Tag

/-- The written form of a tag. -/
def source (tag : Tag) : List Char :=
  '{' :: '{' :: (tag.role.sigil ++ (tag.key.characters ++ ['}', '}']))

/-- The tag at the start of a text, and what follows it. -/
def read? : List Char → Option (Tag × List Char)
  | '{' :: '{' :: rest =>
      match Key.read? (Role.read rest).2 with
      | some (key, '}' :: '}' :: after) =>
          some (⟨(Role.read rest).1, key⟩, after)
      | _ => none
  | _ => none

end Tag

/-! ### What the readers find -/

/-- The sigil that was read stands in front of what follows it. -/
theorem Role.sigil_append_read (text : List Char) :
    (Role.read text).1.sigil ++ (Role.read text).2 = text := by
  unfold Role.read
  split <;> rfl

/-- The key that was read stands in front of what follows it. -/
theorem Key.eq_append_of_read?
    {text after : List Char}
    {key : Key}
    (read : Key.read? text = some (key, after)) :
    text = key.characters ++ after := by
  unfold Key.read? at read
  split at read
  · cases read
    exact List.takeWhile_append_dropWhile.symm
  · cases read

/-- The tag that was read stands in front of what follows it. -/
theorem Tag.eq_append_of_read?
    {text after : List Char}
    {tag : Tag}
    (read : Tag.read? text = some (tag, after)) :
    text = tag.source ++ after := by
  unfold Tag.read? at read
  split at read
  · next rest =>
      split at read
      next key tail keyRead =>
        cases read
        have marked := Role.sigil_append_read rest
        have named := Key.eq_append_of_read? keyRead
        simp only [Tag.source, List.cons_append, List.append_assoc,
          List.nil_append]
        rw [← named, marked]
      · cases read
  · cases read

/-- Reading a tag leaves a shorter text. -/
theorem Tag.length_lt_of_read?
    {text after : List Char}
    {tag : Tag}
    (read : Tag.read? text = some (tag, after)) :
    after.length < text.length := by
  rw [Tag.eq_append_of_read? read]
  simp [Tag.source]
  omega

/-! ### What the written form reads as -/

/-- A key goes on to the first character that cannot belong to one. -/
theorem Key.read?_append
    (key : Key)
    {after : List Char}
    (stops : ∀ c, after.head? = some c → isKeyPart c = false) :
    Key.read? (key.characters ++ after) = some (key, after) := by
  have parts : ∀ c ∈ key.characters, isKeyPart c = true := by
    intro c member
    have identifier := key.isKey_characters
    cases characters : key.characters with
    | nil => simp [characters] at member
    | cons first rest =>
        simp only [characters, isKey, Bool.and_eq_true,
          List.all_eq_true] at identifier
        rw [characters] at member
        cases List.mem_cons.1 member with
        | inl isFirst => simp [isKeyPart, isFirst, identifier.1]
        | inr inRest => exact identifier.2 c inRest
  have nothingMore :
      after.takeWhile isKeyPart = [] ∧ after.dropWhile isKeyPart = after := by
    cases after with
    | nil => simp
    | cons c rest => simp [stops c rfl]
  have taken :
      (key.characters ++ after).takeWhile isKeyPart = key.characters := by
    rw [List.takeWhile_append_of_pos parts, nothingMore.1, List.append_nil]
  have dropped : (key.characters ++ after).dropWhile isKeyPart = after := by
    rw [List.dropWhile_append_of_pos parts, nothingMore.2]
  simp [Key.read?, taken, dropped, key.isKey_characters]

/-- A key starts with none of the sigils. -/
theorem Role.read_sigil_append_key
    (role : Role)
    (key : Key)
    (after : List Char) :
    Role.read (role.sigil ++ (key.characters ++ after)) =
      (role, key.characters ++ after) := by
  have identifier := key.isKey_characters
  cases characters : key.characters with
  | nil => simp [characters, isKey] at identifier
  | cons first rest =>
      simp only [characters, isKey, Bool.and_eq_true] at identifier
      have notSigil : first ≠ '#' ∧ first ≠ '^' ∧ first ≠ '/' := by
        refine ⟨?_, ?_, ?_⟩ <;>
          (rintro rfl; simp [isKeyStart] at identifier)
      match role with
      | .value => simp [Role.sigil, Role.read, notSigil]
      | .opener false => rfl
      | .opener true => rfl
      | .closer => rfl

/-- A text starts with a tag exactly when it starts with the written form. -/
theorem Tag.read?_eq_some_iff
    {text after : List Char}
    {tag : Tag} :
    Tag.read? text = some (tag, after) ↔ text = tag.source ++ after := by
  constructor
  · exact Tag.eq_append_of_read?
  · rintro rfl
    have keyRead : Key.read? (tag.key.characters ++ '}' :: '}' :: after) =
        some (tag.key, '}' :: '}' :: after) :=
      Key.read?_append tag.key (by rintro c ⟨⟩; decide)
    simp [Tag.source, Tag.read?, Role.read_sigil_append_key, keyRead]

end Stencil
end BlackHoleScene
