import SuiteLint.Text.Split

/-!
# Paths

A path is printed as it was given and compared by its components: repeated separators, a separator
at the end and a dot in the middle make no difference. Components are ordered as root, leading dot,
parent, name; names are ordered by their bytes.
-/

namespace SuiteLint

/-- A path as written. -/
structure Path where
  text : String
deriving Repr, DecidableEq, Inhabited

namespace Path

/-- A step of a path. -/
inductive Component where
  | root
  | current
  | parent
  | name (text : String)
deriving Repr, DecidableEq

namespace Component

/-- The place of a kind of component in the order. -/
def rank : Component → Nat
  | root => 0
  | current => 1
  | parent => 2
  | name _ => 3

/-- The name that a component carries. -/
def label : Component → String
  | name text => text
  | _ => ""

/-- The order of components: by kind, then by name. -/
def cmp (a b : Component) : Ordering :=
  (compare a.rank b.rank).then (compare a.label b.label)

/-- A component as it is written between separators. -/
def text : Component → String
  | root => "/"
  | current => "."
  | parent => ".."
  | name text => text

end Component

/-- Reads a piece between separators that is not the first one of a relative path. -/
def pieceComponent? (piece : String) : Option Component :=
  if piece == "" || piece == "." then none
  else if piece == ".." then some .parent
  else some (.name piece)

/-- Reads the pieces between the separators of a relative path. -/
def relativeComponents : List String → List Component
  | [] => []
  | first :: rest =>
    let others := rest.filterMap pieceComponent?
    if first == "." then .current :: others
    else ((pieceComponent? first).toList) ++ others

/-- Whether a path starts at the root. -/
def isAbsolute (p : Path) : Bool := Text.startsWith "/" p.text

/-- The components of a path. -/
def components (p : Path) : List Component :=
  let pieces := Text.split (· == '/') p.text
  if p.isAbsolute then .root :: pieces.filterMap pieceComponent?
  else relativeComponents pieces

/-- The order of component lists. -/
def cmpComponents : List Component → List Component → Ordering
  | [], [] => .eq
  | [], _ :: _ => .lt
  | _ :: _, [] => .gt
  | a :: as, b :: bs => (a.cmp b).then (cmpComponents as bs)

/-- The order of paths. -/
def cmp (p q : Path) : Ordering := cmpComponents p.components q.components

/-- Whether two paths have the same components. -/
def same (p q : Path) : Bool := p.components == q.components

/-- Puts a relative path behind another one; an absolute path stands for itself. -/
def join (p : Path) (q : String) : Path :=
  if Text.startsWith "/" q then ⟨q⟩
  else if p.text == "" || Text.endsWith "/" p.text then ⟨p.text ++ q⟩
  else ⟨p.text ++ "/" ++ q⟩

/-- The path with a further extension behind all it has. -/
def sidecar (p : Path) (ext : String) : Path := ⟨p.text ++ "." ++ ext⟩

/-- Writes components with single separators. -/
def ofComponents : List Component → Path
  | .root :: rest => ⟨"/" ++ "/".intercalate (rest.map Component.text)⟩
  | all => ⟨"/".intercalate (all.map Component.text)⟩

/-- The last component, if it is a name. -/
def fileName? (p : Path) : Option String :=
  match p.components.getLast? with
  | some (.name n) => some n
  | _ => none

/-- The path without its last component; the root and the empty path have no parent. -/
def parent? (p : Path) : Option Path :=
  match p.components.getLast? with
  | none => none
  | some .root => none
  | some _ => some (ofComponents p.components.dropLast)

/-- What follows the last dot of a file name; a dot at its front does not count. -/
def nameExtension? (name : String) : Option String :=
  match Text.splitLast? '.' name with
  | some (stem, ext) => if stem == "" || name == ".." then none else some ext
  | none => none

/-- What follows the last dot of the file name. -/
def extension? (p : Path) : Option String := p.fileName?.bind nameExtension?

/-- The components of a path behind those of another one. -/
def stripComponents? (base p : Path) : Option (List Component) :=
  Text.dropFront? base.components p.components

/-! ## Paths below another one -/

/-- Whether a piece between separators stands for a component. -/
def isStep (piece : String) : Bool := (pieceComponent? piece).isSome

/-- Drops pieces until `n` of them that stand for components are gone. -/
def dropSteps : Nat → List String → List String
  | 0, pieces => pieces
  | _ + 1, [] => []
  | n + 1, piece :: pieces =>
    if isStep piece then dropSteps n pieces else dropSteps (n + 1) pieces

/-- Drops the pieces at the end that stand for no component. -/
def trimEnd (pieces : List String) : List String :=
  (pieces.reverse.dropWhile fun piece => !isStep piece).reverse

/-- The text behind the first `n` components of a path, without separators and dots at its ends. -/
def textAfter (p : Path) (n : Nat) : String :=
  let pieces := Text.split (· == '/') p.text
  let body :=
    match p.components, n with
    | .root :: _, n + 1 => dropSteps n pieces
    | .current :: _, n + 1 => dropSteps n (pieces.drop 1)
    | _, n => dropSteps n pieces
  "/".intercalate (trimEnd (body.dropWhile fun piece => !isStep piece))

/-- A path without separators and dots at its end. -/
def withoutTail (p : Path) : Path :=
  match p.components with
  | [.root] => ⟨"/"⟩
  | [.current] => ⟨"."⟩
  | _ => ⟨"/".intercalate (trimEnd (Text.split (· == '/') p.text))⟩

/-- The part of a path below `base`, as it is written there. -/
def relativeTo? (base p : Path) : Option Path :=
  match stripComponents? base p with
  | none => none
  | some _ =>
    match base.components.length with
    | 0 => some p.withoutTail
    | n + 1 => some ⟨p.textAfter (n + 1)⟩

/-- How a path is shown: relative to `root` if it lies there, with forward slashes, and as a dot if
nothing is left. -/
def shown (root : Option Path) (p : Path) : String :=
  let part := (root.bind fun r => relativeTo? r p).getD p
  let text := Text.replaceChar '\\' '/' part.text
  if text == "" then "." else text

end Path

end SuiteLint
