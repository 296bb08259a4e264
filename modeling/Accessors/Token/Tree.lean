/-!
# Token trees

Source text as a forest: words, lifetimes, literals and punctuation characters at the leaves, and
a group for every matched pair of delimiters.

* `Tree.ofLexemes`: the forest of a flat sequence, if its delimiters match.
* `words`: the forest written out, one word for each leaf and each delimiter.
-/

namespace Accessors.Token

/-- A kind of bracket. -/
inductive Delimiter where
  | parenthesis
  | bracket
  | brace
  deriving DecidableEq, Repr

/-- The opening bracket. -/
def Delimiter.opening : Delimiter → String
  | parenthesis => "("
  | bracket => "["
  | brace => "\x7b"

/-- The closing bracket. -/
def Delimiter.closing : Delimiter → String
  | parenthesis => ")"
  | bracket => "]"
  | brace => "\x7d"

/-- An identifier; a raw one is written with a mark that lets keywords be names. -/
structure Ident where
  name : String
  raw : Bool
  deriving DecidableEq, Repr

/-- An identifier as written. -/
def Ident.text (i : Ident) : String := if i.raw then "r#" ++ i.name else i.name

/-- A token that is no delimiter. -/
inductive Leaf where
  | ident (i : Ident)
  /-- A lifetime, by the identifier behind its quote. -/
  | lifetime (i : Ident)
  /-- A literal as written. -/
  | literal (text : String)
  /-- One punctuation character; `joint` when another one follows at once. -/
  | punct (c : Char) (joint : Bool)
  deriving DecidableEq, Repr

/-- A leaf as written. -/
def Leaf.text : Leaf → String
  | ident i => i.text
  | lifetime i => "'" ++ i.text
  | literal text => text
  | punct c _ => String.singleton c

/-- A leaf, or a group of trees between delimiters. -/
inductive Tree where
  | leaf (l : Leaf)
  | group (d : Delimiter) (body : List Tree)
  deriving Repr

mutual

/-- Whether two trees are the same. -/
def Tree.decEq : (a b : Tree) → Decidable (a = b)
  | .leaf l, .leaf m => decidable_of_iff (l = m) (by simp)
  | .group d a, .group e b =>
    match decEq d e, treesDecEq a b with
    | isTrue hd, isTrue hbody => isTrue (by rw [hd, hbody])
    | isFalse hd, _ => isFalse fun h => hd (Tree.group.inj h).1
    | _, isFalse hbody => isFalse fun h => hbody (Tree.group.inj h).2
  | .leaf _, .group _ _ => isFalse nofun
  | .group _ _, .leaf _ => isFalse nofun

/-- Whether two forests are the same. -/
def treesDecEq : (a b : List Tree) → Decidable (a = b)
  | [], [] => isTrue rfl
  | t :: ts, u :: us =>
    match Tree.decEq t u, treesDecEq ts us with
    | isTrue ht, isTrue hts => isTrue (by rw [ht, hts])
    | isFalse ht, _ => isFalse fun h => ht (List.cons.inj h).1
    | _, isFalse hts => isFalse fun h => hts (List.cons.inj h).2
  | [], _ :: _ => isFalse nofun
  | _ :: _, [] => isFalse nofun

end

instance : DecidableEq Tree := Tree.decEq

mutual

/-- The words of a tree. -/
def Tree.words : Tree → List String
  | .leaf l => [l.text]
  | .group d body => d.opening :: wordsOf body ++ [d.closing]

/-- The words of a forest. -/
def wordsOf : List Tree → List String
  | [] => []
  | t :: rest => t.words ++ wordsOf rest

end

mutual

/-- The number of leaves and groups of a tree. -/
def Tree.size : Tree → Nat
  | .leaf _ => 1
  | .group _ body => sizeOf body + 1

/-- The number of leaves and groups of a forest. -/
def sizeOf : List Tree → Nat
  | [] => 0
  | t :: rest => t.size + sizeOf rest

end

/-- A piece of the flat sequence that a text is cut into. -/
inductive Lexeme where
  | leaf (l : Leaf)
  | opening (d : Delimiter)
  | closing (d : Delimiter)
  deriving DecidableEq, Repr

/-- A group that is still open: its delimiter, and the trees before it, last first. -/
structure Frame where
  delimiter : Delimiter
  before : List Tree
  deriving Repr

/-- Builds the forest of a flat sequence, with the trees built so far, last first, and the groups
that are open, innermost first. Delimiters that do not match build none. -/
def build : List Tree → List Frame → List Lexeme → Option (List Tree)
  | trees, [], [] => some trees.reverse
  | _, _ :: _, [] => none
  | trees, frames, .leaf l :: rest => build (.leaf l :: trees) frames rest
  | trees, frames, .opening d :: rest => build [] (⟨d, trees⟩ :: frames) rest
  | _, [], .closing _ :: _ => none
  | trees, f :: frames, .closing d :: rest =>
    if f.delimiter = d then build (.group d trees.reverse :: f.before) frames rest else none

/-- The forest of a flat sequence. -/
def Tree.ofLexemes (lexemes : List Lexeme) : Option (List Tree) := build [] [] lexemes

end Accessors.Token
