import MarkdownToAdf.Toml.Tree

set_option autoImplicit false

/-!
# Orders of visiting

Tables are hash maps in the end, and their entries are visited in an order that nothing determines.
Such an order is given from outside, and the one in which entries were written is only one of them.
-/
namespace MarkdownToAdf

/-- A rearrangement of entries, also of those of tables among them. -/
inductive Toml.Visited : Entries → Entries → Prop
  | refl (es : Entries) : Visited es es
  | inside (key : String) (kind : TableKind) {inner inner' : Entries} (h : Visited inner inner')
    (es : Entries) : Visited ((key, .table kind inner) :: es) ((key, .table kind inner') :: es)
  | behind (e : String × Toml) {es es' : Entries} (h : Visited es es') : Visited (e :: es) (e :: es')
  | swap (e f : String × Toml) (es : Entries) : Visited (e :: f :: es) (f :: e :: es)
  | trans {es es' es'' : Entries} (h : Visited es es') (h' : Visited es' es'') : Visited es es''

namespace Config

/-- An order in which the entries of a document may be visited. -/
structure Visit where
  arrange : Toml.Entries → Toml.Entries
  visited : ∀ es, Toml.Visited es (arrange es)

def Visit.asWritten : Visit := ⟨id, .refl⟩

structure Order (α : Type) where
  arrange : List α → List α
  perm : ∀ l, (arrange l).Perm l

def Order.asAdded {α : Type} : Order α := ⟨id, List.Perm.refl⟩

end Config

end MarkdownToAdf
