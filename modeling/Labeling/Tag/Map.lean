import Labeling.Dict

namespace Labeling

class Named (α : Type) where
  name : α → String

/-- Tags in the order of their definition; the index leads from their names to their positions. -/
structure TagMap (α : Type) where
  tags : List α
  index : Dict Nat
  deriving Repr

namespace TagMap

variable {α : Type} [Named α]

def empty : TagMap α := ⟨[], []⟩

def contains (m : TagMap α) (name : String) : Bool := m.index.contains name

/-- Adds a tag at the end, unless its name is taken. -/
def insert (m : TagMap α) (tag : α) : TagMap α :=
  if m.contains (Named.name tag) then m
  else ⟨m.tags ++ [tag], m.index.insert (Named.name tag) m.tags.length⟩

def get? (m : TagMap α) (name : String) : Option α := (m.index.get? name).bind (m.tags[·]?)

def modify (m : TagMap α) (name : String) (f : α → α) : TagMap α :=
  match m.index.get? name with
  | some i => { m with tags := m.tags.modify i f }
  | none => m

def mapTags (m : TagMap α) (f : α → α) : TagMap α := { m with tags := m.tags.map f }

def names (m : TagMap α) : List String := m.tags.map Named.name

def size (m : TagMap α) : Nat := m.tags.length

def isEmpty (m : TagMap α) : Bool := m.tags.isEmpty

theorem names_insert (m : TagMap α) (tag : α) :
    (m.insert tag).names =
      if m.contains (Named.name tag) then m.names else m.names ++ [Named.name tag] := by
  unfold insert
  split <;> simp [names]

theorem names_mapTags (m : TagMap α) {f : α → α} (h : ∀ t, Named.name (f t) = Named.name t) :
    (m.mapTags f).names = m.names := by
  simp [names, mapTags, Function.comp_def, h]

end TagMap

end Labeling
