import GroupLint.Syntax.Concrete

/-!
From a concrete tree to the tree that rules look at. Calls become `send` or `csend` nodes over
receiver and arguments, wrapped in a `block` when they open one; runs of keyword arguments become
one `hash`; strings, symbols and constants carry their values; comments and block parameters go;
every other node keeps its kind and its named children.

Lowering is a fold: what a concrete node becomes is computed from what its children became.
-/
namespace GroupLint

namespace Lowering

def isSkipped (kind : String) : Bool := ["comment", "block_parameters", "heredoc_end"].contains kind

def isBodyWrapper (kind : String) : Bool := ["body_statement", "block_body"].contains kind

def isKeywordKind (kind : String) : Bool := ["pair", "hash_splat_argument"].contains kind

def escapes : List (Char × Char) :=
  [('n', '\n'), ('t', '\t'), ('r', '\r'), ('s', ' '), ('0', '\x00'), ('e', '\x1b'), ('a', '\x07'),
   ('b', '\x08'), ('f', '\x0c'), ('v', '\x0b')]

/-- What an escape sequence stands for: a listed one its character, another of two characters the
second one, a longer one itself. -/
def unescape : List Char → List Char
  | ['\\', c] => [(escapes.lookup c).getD c]
  | [_, c] => [c]
  | cs => cs

def literalText (bytes : List UInt8) (c : Concrete) : List Char :=
  if c.kind == "escape_sequence" then unescape (c.text bytes) else c.text bytes

/-- A concrete node with what became of it: its own node, the nodes of its named children, and the
statements it holds if it is a block. -/
structure Lowered where
  source : Concrete
  node : Slot
  parts : List Node
  body : List Node

def named (ls : List Lowered) : List Lowered := ls.filter (·.source.isNamed)

def nodes (ls : List Lowered) : List Node := ls.filterMap (·.node)

def inField (name : String) (ls : List Lowered) : Option Lowered :=
  ls.find? (·.source.field == some name)

def nodeIn (name : String) (ls : List Lowered) : Slot := (inField name ls).bind (·.node)

def statements (ls : List Lowered) : List Node :=
  (named ls).flatMap fun l => if isBodyWrapper l.source.kind then l.parts else l.node.toList

def keywordHash (first : Node) (rest : List Node) : Node :=
  let last := rest.getLast?.getD first
  .mk "hash" none ⟨first.span.start, last.span.stop, first.span.line, first.span.column⟩
    ((first :: rest).map some)

def flush : List Node → List Node
  | [] => []
  | first :: rest => [keywordHash first rest]

/-- Arguments with every maximal run of keyword arguments gathered, `run` being pending. -/
def gather (run : List Node) : List Node → List Node
  | [] => flush run
  | a :: r => if isKeywordKind a.kind then gather (run ++ [a]) r else flush run ++ a :: gather [] r

def groupKeywords (args : List Node) : List Node := gather [] args

/-- A call ends where the last of its receiver, name and arguments ends. -/
def sendStop (c : Concrete) (ls : List Lowered) : Int :=
  match (["receiver", "method", "arguments"].filterMap (inField · ls)).map (·.source.extent.stop) with
  | [] => c.extent.stop
  | e :: r => r.foldl max e

def callKind (bytes : List UInt8) (ls : List Lowered) : String :=
  match inField "operator" ls with
  | some op => if op.source.text bytes == ['&', '.'] then "csend" else "send"
  | none => "send"

def callName (bytes : List UInt8) (ls : List Lowered) : String :=
  match inField "method" ls with
  | some m => String.ofList (m.source.text bytes)
  | none => "call"

def callArguments (ls : List Lowered) : List Node :=
  match inField "arguments" ls with
  | some a => groupKeywords a.parts
  | none => []

def send (bytes : List UInt8) (c : Concrete) (ls : List Lowered) : Node :=
  .mk (callKind bytes ls) (some (callName bytes ls)) { c.span with stop := sendStop c ls }
    (nodeIn "receiver" ls :: (callArguments ls).map some)

def call (bytes : List UInt8) (c : Concrete) (ls : List Lowered) : Node :=
  match inField "block" ls with
  | none => send bytes c ls
  | some b => .mk "block" none c.span (some (send bytes c ls) :: b.body.map some)

/-- A path without a scope hangs from the root, which takes the two colons. -/
def scopeSlot (c : Concrete) (ls : List Lowered) : Slot :=
  match inField "scope" ls with
  | some s => s.node
  | none => some (.mk "cbase" none { c.span with stop := c.extent.start + 2 } [])

def scopeResolution (bytes : List UInt8) (c : Concrete) (ls : List Lowered) : Node :=
  .mk "const" ((inField "name" ls).map fun n => String.ofList (n.source.text bytes)) c.span
    [scopeSlot c ls]

def quotedNode (plain interpolated : String) (bytes : List UInt8) (c : Concrete)
    (ls : List Lowered) : Node :=
  if (named ls).any (·.source.kind == "interpolation") then
    .mk interpolated none c.span ((nodes (named ls)).map some)
  else
    .mk plain (some (String.ofList ((named ls).flatMap fun l => literalText bytes l.source))) c.span []

def asSymbol (n : Node) : Node :=
  if n.kind == "dstr" then .mk "dsym" none n.span n.children
  else if n.kind == "str" then .mk "sym" n.value n.span []
  else n

/-- A string key is a symbol unless an arrow follows it. -/
def keySlot (c : Concrete) (ls : List Lowered) : Slot :=
  match inField "key" ls with
  | some k =>
    if k.source.kind == "string" && !c.children.any (·.kind == "=>") then k.node.map asSymbol
    else k.node
  | none => none

def pair (c : Concrete) (ls : List Lowered) : Node :=
  .mk "pair" none c.span [keySlot c ls, nodeIn "value" ls]

def binary (bytes : List UInt8) (c : Concrete) (ls : List Lowered) : Node :=
  let op := String.ofList (((inField "operator" ls).map (·.source.text bytes)).getD [])
  let operands := [nodeIn "left" ls, nodeIn "right" ls]
  if op == "and" || op == "&&" then .mk "and" none c.span operands
  else if op == "or" || op == "||" then .mk "or" none c.span operands
  else .mk "send" (some op) c.span operands

def generic (bytes : List UInt8) (c : Concrete) (ls : List Lowered) : Node :=
  .mk c.kind (if (named ls).isEmpty then some (String.ofList (c.text bytes)) else none) c.span
    ((nodes (named ls)).map some)

def textNode (kind : String) (bytes : List UInt8) (c : Concrete) (children : List Slot) : Node :=
  .mk kind (some (String.ofList (c.text bytes))) c.span children

def assemble (bytes : List UInt8) (c : Concrete) (ls : List Lowered) : Slot :=
  if isSkipped c.kind then none
  else some <|
    match c.kind with
    | "program" => .mk "program" none c.span ((nodes (named ls)).map some)
    | "call" => call bytes c ls
    | "identifier" => textNode "send" bytes c [none]
    | "constant" => textNode "const" bytes c [none]
    | "scope_resolution" => scopeResolution bytes c ls
    | "string" => quotedNode "str" "dstr" bytes c ls
    | "delimited_symbol" => quotedNode "sym" "dsym" bytes c ls
    | "simple_symbol" => .mk "sym" (some (String.ofList ((c.text bytes).drop 1))) c.span []
    | "hash_key_symbol" => textNode "sym" bytes c []
    | "hash" => .mk "hash" none c.span ((nodes (named ls)).map some)
    | "pair" => pair c ls
    | "binary" => binary bytes c ls
    | _ => generic bytes c ls

def assembled (bytes : List UInt8) (c : Concrete) (ls : List Lowered) : Lowered :=
  ⟨c, assemble bytes c ls, nodes (named ls), statements ls⟩

mutual

def lower (bytes : List UInt8) : Concrete → Lowered
  | .mk k n f x e m cs => assembled bytes (.mk k n f x e m cs) (lowerAll bytes cs)

def lowerAll (bytes : List UInt8) : List Concrete → List Lowered
  | [] => []
  | c :: r => lower bytes c :: lowerAll bytes r

end

end Lowering

def Concrete.toNode (bytes : List UInt8) (c : Concrete) : Slot := (Lowering.lower bytes c).node

def Concrete.parse (bytes : List UInt8) (path : Option String) (c : Concrete) :
    Except SyntaxFault Slot :=
  if c.hasError then
    match c.firstMistake with
    | some bad => .error ⟨path, bad.extent.row + 1, bad.extent.column⟩
    | none => .error ⟨path, 1, 0⟩
  else .ok (c.toNode bytes)

end GroupLint
