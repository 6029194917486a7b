import Runbook.Table
import Runbook.Text.Basic

/-!
# Paths

A path is shown as it was written and compared by its components: repeated slashes, a slash at
the end and single dots other than a leading one do not count. Two dots are a component like any
other; nothing is looked up.
-/

namespace Runbook

/-- A step of a path. The order of the constructors is the order of components. -/
inductive Component where
  | root
  | here
  | up
  | name (text : String)
deriving DecidableEq, Repr

/-- A path as it is written. -/
structure Path where
  text : String
deriving DecidableEq, Repr, Inhabited

namespace Component

/-- The text of a component. -/
def text : Component → String
  | .root => "/"
  | .here => "."
  | .up => ".."
  | .name text => text

/-- Where a component's kind stands in the order of components. -/
def rank : Component → Nat
  | .root => 0
  | .here => 1
  | .up => 2
  | .name _ => 3

/-- Is one component before another? Names are in the order of their characters. -/
def before (a b : Component) : Bool :=
  match a, b with
  | .name x, .name y => Ordered.before x y
  | _, _ => a.rank < b.rank

/-- No component stands before itself. -/
theorem before_irrefl (a : Component) : a.before a = false := by
  cases a <;> simp [before, rank, Ordered.irrefl]

/-- The order of components is transitive. -/
theorem before_trans {a b c : Component} (first : a.before b = true)
    (second : b.before c = true) : a.before c = true := by
  cases a <;> cases b <;> cases c <;> simp_all [before, rank]
  exact Ordered.trans first second

/-- Two components of which neither stands before the other are one. -/
theorem eq_of_not_before {a b : Component} (first : a.before b = false)
    (second : b.before a = false) : a = b := by
  cases a <;> cases b <;> simp_all [before, rank]
  exact Ordered.total first second

end Component

/-- Components are ordered by their kinds, and names as texts. -/
instance : Ordered Component where
  before := Component.before
  irrefl := Component.before_irrefl
  trans := Component.before_trans
  total := Component.eq_of_not_before

namespace Path

/-- The components of a text without leading slash. A dot counts only where `leading` says that
the path begins here. -/
def componentsOf (leading : Bool) (pieces : List (List Char)) : List Component :=
  match pieces with
  | [] => []
  | piece :: pieces =>
      let rest := componentsOf false pieces
      if piece.isEmpty then rest
      else if piece = ['.'] then if leading then .here :: rest else rest
      else if piece = ['.', '.'] then .up :: rest
      else .name (String.ofList piece) :: rest

/-- The components of a path. -/
def components (path : Path) : List Component :=
  match path.text.toList with
  | '/' :: rest => .root :: componentsOf false (Text.splitOn '/' rest)
  | text => componentsOf true (Text.splitOn '/' text)

/-- The path `child` below `base`; a child that starts at the root stands for itself. -/
def join (base : Path) (child : String) : Path :=
  if child.startsWith "/" then ⟨child⟩
  else if base.text.isEmpty || base.text.endsWith "/" then ⟨base.text ++ child⟩
  else ⟨base.text ++ "/" ++ child⟩

/-- A path written from its end without the slashes and single dots there, and without what
remains of its last component when `drop` says so. The text is given in reverse. -/
def trimEnd (absolute : Bool) : Nat → List Char → List Char
  | 0, text => text
  | fuel + 1, text =>
      match text with
      | '/' :: rest => if rest.isEmpty && absolute then text else trimEnd absolute fuel rest
      | '.' :: '/' :: rest => trimEnd absolute fuel ('/' :: rest)
      | _ => text

/-- The path without its last component; nothing where there is none to take away. -/
def parent? (path : Path) : Option Path :=
  match path.components.getLast? with
  | none => none
  | some .root => none
  | some _ =>
      let text := path.text.toList
      let absolute := text.head? = some '/'
      let trimmed := trimEnd absolute (text.length + 1) text.reverse
      let above := trimmed.dropWhile (· ≠ '/')
      some ⟨String.ofList (trimEnd absolute (text.length + 1) above).reverse⟩

/-- What is left of a list of components after a leading list. -/
def dropComponents : List Component → List Component → Option (List Component)
  | [], components => some components
  | _ :: _, [] => none
  | a :: lead, b :: components => if a = b then dropComponents lead components else none

/-- The components of a path below `root`; nothing when it does not lie there. -/
def relativeTo? (path root : Path) : Option (List Component) :=
  dropComponents root.components path.components

/-- Is one path before another? -/
def before (a b : Path) : Bool := Ordered.before a.components b.components

/-- Do two paths have the same components? -/
def same (a b : Path) : Bool := a.components = b.components

end Path

end Runbook
