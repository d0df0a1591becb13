import Mathlib
import Sieve.Proofs.Json.LowerKeys
import Sieve.Proofs.Sql.Accessor
import Sieve.Proofs.Sql.Names

/-!
# Sieve.Proofs.Sql.StoredPaths

What the paths of compiled conditions reach in stored documents. A document is stored with its keys
in lower case, and the keys of a path are compiled to texts in lower case, so a path that differs
from keys of the document in letter case alone reaches what the keys lead to, from the document or
from an element of it: `stored_reached`.
-/

namespace Sieve
namespace Sql

/-- A path reaches a document from another one, and so does each accessor along the path, in any
expression that shows the other one. -/
structure Reaches (root : Json) (path : List String) (x : Json) : Prop where
  followed : root.follow path = some x
  document : ∀ env e, Shows env e (some root) → Shows env (documentAt e path) (some x)
  text : ∀ env e, Shows env e (some root) →
    eval env (textAt e path) = .ok ((Datum.textOfJson env.engine x).map .text)
  number : ∀ env e, Shows env e (some root) →
    eval env (numberAt e path) = .ok (x.number?.map .numeric)

theorem reaches_of_follow {root x : Json} {path : List String} (h : root.follow path = some x) :
    Reaches root path x where
  followed := h
  document env e he := by
    have hshown := shows_documentAt he path
    rwa [Option.bind_some, h] at hshown
  text env e he := by
    have htext := eval_textAt he path
    rwa [Option.bind_some, h, Option.bind_some] at htext
  number env e he := by
    have hnumber := eval_numberAt he path
    rwa [Option.bind_some, h, Option.bind_some] at hnumber

theorem reaches_lowerKeys {catalog : Catalog} {l : Leaf} {keys : List String} {root x : Json}
    (hsame : l.field.nested.map Text.lower = keys.map Text.lower) (h : root.Leads keys x) :
    Reaches root.lowerKeys (targetOf catalog l).path x.lowerKeys := by
  rw [targetOf, hsame]
  exact reaches_of_follow (Json.follow_lowerKeys h)

/-- The keys that a compiled leaf follows are those of its path in lower case. In a document as it
is stored they reach what keys of the same lower case lead to in the document itself, from the whole
of it or from an element, if no other keys on the way have that lower case. Storing keeps scalars
and the items of an array in their places, does nothing more the second time, and keeps the last of
members whose keys meet. -/
theorem stored_reached (d : Json) :
    (∀ (catalog : Catalog) (l : Leaf) (keys : List String),
      l.field.nested.map Text.lower = keys.map Text.lower →
      (∀ first,
        Refers (references catalog l) (compileFrom catalog (.leaf l) first).condition.pieces) ∧
      (∀ x : Json, d.Leads keys x →
        ∃ stored, Argument.document d = .json stored ∧
          Reaches stored (targetOf catalog l).path x.lowerKeys) ∧
      ∀ (items : List Json) (i : Nat) (item x : Json), d = .array items → items[i]? = some item →
        item.Leads keys x →
        ∃ stored element, Argument.document d = .json (.array stored) ∧
          stored[i]? = some element ∧ stored.length = items.length ∧
          Reaches element (targetOf catalog l).path x.lowerKeys) ∧
    d.lowerKeys.lowerKeys = d.lowerKeys ∧
    (d.isComposite = false → d.lowerKeys = d) ∧
    (∀ items, d = .array items → d.lowerKeys = .array (items.map Json.lowerKeys)) ∧
    ∀ members, d = .object members → Entries.Sorted members → ∀ name j,
      (d.lowerKeys.member? name = some j ↔
        ∃ m ∈ members, Text.lower m.1 = name ∧
          (∀ other ∈ members, Text.lower other.1 = name → other.1 ≤ m.1) ∧ j = m.2.lowerKeys) := by
  refine ⟨fun catalog l keys hsame => ⟨fun first => ?_, fun x hleads => ?_, ?_⟩,
    Json.lowerKeys_lowerKeys d, Json.lowerKeys_of_atomic, ?_, ?_⟩
  · rw [compileFrom, test]
    exact refers_leafTest catalog l first
  · exact ⟨d.lowerKeys, rfl, reaches_lowerKeys hsame hleads⟩
  · rintro items i item x rfl hitem hleads
    refine ⟨items.map Json.lowerKeys, item.lowerKeys, ?_, ?_, List.length_map _, ?_⟩
    · rw [Argument.document, Json.lowerKeys_array]
    · rw [List.getElem?_map, hitem, Option.map_some]
    · exact reaches_lowerKeys hsame hleads
  · rintro items rfl
    exact Json.lowerKeys_array items
  · rintro members rfl hsorted name j
    exact Json.member?_lowerKeys hsorted name j

/-- The leaf `vpas.CELL.Id = "c-1"`. -/
def cellLeaf : Leaf where
  field := ⟨"vpas.CELL.Id", by decide +kernel⟩
  condition := .comparison .eq ⟨.text "c-1", rfl⟩

/-- The element `{"Cell": {"ID": {"Raw": "c-1"}, "Id2": true}}`, which has another key beside the
one that is taken. -/
def cellElement : Json :=
  .object [("Cell", .object [("ID", .object [("Raw", .text "c-1")]), ("Id2", .bool true)])]

/-- An element is entered by its own keys, whose case differs from that of the path. -/
theorem stored_reached_cell :
    cellLeaf.field.nested.map Text.lower = ["Cell", "ID"].map Text.lower ∧
      cellElement.Leads ["Cell", "ID"] (.object [("Raw", .text "c-1")]) ∧
      ∃ stored element, Argument.document (.array [.null, cellElement]) = .json (.array stored) ∧
        stored[1]? = some element ∧
        Reaches element (targetOf .empty cellLeaf).path (.object [("raw", .text "c-1")]) := by
  have hsame : cellLeaf.field.nested.map Text.lower = ["Cell", "ID"].map Text.lower := by
    decide +kernel
  have hleads : cellElement.Leads ["Cell", "ID"] (.object [("Raw", .text "c-1")]) := by
    refine .member rfl ?_ (.member rfl ?_ (.here _))
    · simp
    · have hother : Text.lower "Id2" ≠ Text.lower "ID" := by decide +kernel
      simp [hother]
  obtain ⟨stored, element, hstored, helement, -, hreaches⟩ :=
    ((stored_reached (.array [.null, cellElement])).1 .empty cellLeaf _ hsame).2.2 _ 1 cellElement _
      rfl rfl hleads
  have hraw : (Json.object [("Raw", .text "c-1")]).lowerKeys = .object [("raw", .text "c-1")] := by
    have hkey : Text.lower "Raw" = "raw" := by decide +kernel
    simp [Json.lowerKeys, Json.lowerMembers, Json.ofMembers, Entries.ofPairs, Entries.insert, hkey]
  rw [hraw] at hreaches
  exact ⟨hsame, hleads, stored, element, hstored, helement, hreaches⟩

end Sql
end Sieve
