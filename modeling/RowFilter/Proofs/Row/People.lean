import RowFilter.Predicate.Compile
import RowFilter.Proofs.Row.Walk

/-!
# A catalog of people

Two row types, for theorems about catalogs to be applied to: people, each with an address, and
addresses. A person is also a record of itself, so a path may go through the same type again.
-/

set_option autoImplicit false

namespace RowFilter.People

structure Address where
  city : String
  number : BoundedInt .u8

structure Person where
  name : String
  age : BoundedInt .i32
  address : Address

/-- The names of the row types. -/
inductive RowType where
  | person
  | address
  deriving DecidableEq

/-- The rows of each type. -/
def Rows : RowType → Type
  | .person => Person
  | .address => Address

def declare (t : RowType) (name : String) : Schema.Builder Rows t := .empty t name

def personFields : Schema.Builder Rows .person :=
  (((declare .person "Person").field "Name" Person.name).field "Age" Person.age).record
    "Address" RowType.address Person.address |>.record "Me" RowType.person id

/-- The field that leads from a person to the same person. -/
def me : RecordField Rows := .entering (t := .person) (u := .person) "Me" id

def addressFields : Schema.Builder Rows .address :=
  ((declare .address "Address").field "City" Address.city).field "Number" Address.number

def catalog : Catalog Rows
  | .person => ⟨personFields.name, personFields.fields⟩
  | .address => ⟨addressFields.name, addressFields.fields⟩

theorem catalog_made : catalog.Made
  | .person =>
    ⟨personFields, .record _ _ (.record _ _ (.field _ _ (.field _ _ (.empty _)))),
      Schema.Builder.build_eq_ok.mpr ⟨by decide +kernel, rfl⟩⟩
  | .address =>
    ⟨addressFields, .field _ _ (.field _ _ (.empty _)),
      Schema.Builder.build_eq_ok.mpr ⟨by decide +kernel, rfl⟩⟩

def ann : Person := ⟨"Ann", ⟨41, by decide⟩, ⟨"Paoli", ⟨7, by decide⟩⟩⟩

def ben : Person := ⟨"Ben", ⟨40, by decide⟩, ⟨"Paoli", ⟨12, by decide⟩⟩⟩

/-- Alternatives with a nested path, a group without any, and a path through the self record. -/
def neighbours : Grouping :=
  ⟨[⟨[⟨⟨["Name"]⟩, "eq", "Bob", default⟩, ⟨⟨["ADDRESS", "city"]⟩, "CN", "aol", default⟩]⟩, ⟨[]⟩,
    ⟨[⟨⟨["Me", "Me", "Age"]⟩, "ge", "+41", default⟩]⟩]⟩

theorem neighbours_compiles :
    ∃ p : Predicate Rows .person, Predicate.compile catalog .person neighbours = .ok p := by
  have hok : (Predicate.compile catalog .person neighbours).isOk = true := by decide +kernel
  cases h : Predicate.compile catalog .person neighbours with
  | ok p => exact ⟨p, rfl⟩
  | error e =>
    rw [h] at hok
    cases hok

/-- Both live in the right town, and only Ann is old enough. -/
theorem accepts_neighbours {p : Predicate Rows .person}
    (compiled : Predicate.compile catalog .person neighbours = .ok p) :
    p.accepts ann = true ∧ p.accepts ben = false := by
  have hboth : (fun p => (p.accepts ann, p.accepts ben)) <$>
      Predicate.compile catalog .person neighbours = .ok (true, false) := by
    decide +kernel
  rw [compiled] at hboth
  exact Prod.mk.inj (Except.ok.inj hboth)

/-- The same in other letter case. -/
def neighboursRecased : Grouping :=
  ⟨[⟨[⟨⟨["NAME"]⟩, "EQ", "Bob", default⟩, ⟨⟨["Address", "City"]⟩, "cN", "aol", default⟩]⟩, ⟨[]⟩,
    ⟨[⟨⟨["me", "ME", "aGE"]⟩, "Ge", "+41", default⟩]⟩]⟩

/-- The same with another order, a repeated clause, other spans and no empty group. -/
def neighboursShuffled : Grouping :=
  ⟨[⟨[⟨⟨["Me", "Me", "Age"]⟩, "ge", "+41", ⟨0, 14⟩⟩]⟩,
    ⟨[⟨⟨["ADDRESS", "city"]⟩, "CN", "aol", default⟩, ⟨⟨["Name"]⟩, "eq", "Bob", ⟨21, 11⟩⟩,
      ⟨⟨["ADDRESS", "city"]⟩, "CN", "aol", ⟨40, 19⟩⟩]⟩]⟩

end RowFilter.People
