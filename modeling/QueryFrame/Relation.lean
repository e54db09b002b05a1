import QueryFrame.Number.Decimal

/-!
# Relations

The columns of a dataframe come from a relation, which messages call its base node. A relation that
is computed from another one, once that is materialized, keeps the name and counts the generations.
-/

namespace QueryFrame

/-- A relation that columns are taken from. -/
structure Relation where
  /-- the name of the first generation -/
  name : String
  /-- how often the relation was derived -/
  generation : UInt32
  deriving DecidableEq

namespace Relation

/-- A relation of the first generation. -/
def ofName (name : String) : Relation :=
  ⟨name, 0⟩

/-- The relation of the next generation. -/
def derive (relation : Relation) : Relation :=
  ⟨relation.name, relation.generation + 1⟩

/-- The relation in running text. -/
def text (relation : Relation) : String :=
  relation.name ++ "#" ++ Number.Decimal.ofNat relation.generation.toNat

end Relation

end QueryFrame
