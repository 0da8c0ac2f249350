/-
Trees of values, as files and variables write the configuration.

Of a float a tree keeps only that it is one, since no setting is a float. The members of a table
stand in the order of their names, each name once.
-/
import ControlPlane.Dictionary

namespace ControlPlane

inductive Tree
  | empty
  | flag (value : Bool)
  | integer (value : Int)
  | float
  | text (value : String)
  | list (items : List Tree)
  | table (members : List (String × Tree))
  deriving BEq, Repr, Inhabited

namespace Tree

/-- A table with the given members, of which the last of each name counts. -/
def ofMembers (members : List (String × Tree)) : Tree := .table (orderedEntries members)

/-- A value under a path of names. -/
def nest (path : List String) (value : Tree) : Tree :=
  path.foldr (fun name below => .table [(name, below)]) value

mutual

/-- One tree laid on another: members of tables are laid on each other name by name, and anything
else replaces what it is laid on. -/
def overlay (base : Tree) : Tree → Tree
  | .table top =>
    match base with
    | .table members => .table (overlayMembers members top)
    | _ => .table top
  | top => top

/-- Members laid on members. A name that is not there yet is added. -/
def overlayMembers (base : List (String × Tree)) : List (String × Tree) → List (String × Tree)
  | [] => base
  | (name, value) :: rest =>
    let laid :=
      match base.lookup name with
      | some below => overlay below value
      | none => value
    overlayMembers (insertEntry name laid base) rest

end
end Tree
end ControlPlane
