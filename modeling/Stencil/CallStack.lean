import Stencil.Context
import Stencil.Loop
import Stencil.Template

/-! The scopes of a render. Every template, block, loop iteration and macro call that is under way has
    a frame with names of its own; a name is looked up from the innermost frame outwards and at last
    in the render's context. The frame of a macro call is a boundary: what lies outside of it is
    not visible, the context included. -/

namespace Stencil

/-- What a frame stands for. A block frame knows its place in the chain of definitions. -/
inductive FrameKind where
  | root
  | iteration (loop : Loop)
  | call
  | block (name : String) (position : Int) (chain : BlockChain)

namespace FrameKind

def name : FrameKind → String
  | .root => "root"
  | .iteration _ => "for_loop"
  | .call => "macro"
  | .block .. => "block"

def isCall : FrameKind → Bool
  | .call => true
  | _ => false

/-- A frame that names bound widely go to: that of a template or of a macro call. -/
def isWide : FrameKind → Bool
  | .root | .call => true
  | _ => false

def loop? : FrameKind → Option Loop
  | .iteration l => some l
  | _ => none

end FrameKind

/-- A scope with the template whose code runs in it. -/
structure Frame where
  kind : FrameKind
  name : String
  template : Template
  locals : Table Value := .empty

namespace Frame

/-- The frame of a template. -/
def root (t : Template) : Frame := { kind := .root, name := t.name, template := t }

/-- The frame of an iteration. -/
def iteration (l : Loop) (t : Template) : Frame :=
  { kind := .iteration l, name := "for " ++ l.valueName, template := t }

/-- The frame of a macro call. -/
def call (macroName : String) (t : Template) : Frame :=
  { kind := .call, name := t.name ++ "::" ++ macroName, template := t }

/-- The frame of a block definition. -/
def block (name : String) (position : Int) (chain : BlockChain) (owner : Template) : Frame :=
  { kind := .block name position chain, name := "block " ++ name, template := owner }

/-- The template that owns the block definition of a frame. -/
def owner? (f : Frame) : Option String :=
  match f.kind with
  | .block _ position chain => (chain.entry? position).map Prod.fst
  | _ => none

/-- The value of a name in this frame alone; what the loop binds hides the locals. -/
def find (f : Frame) (name : String) : Value :=
  match f.kind.loop?.bind (·.binding? name) with
  | some v => v
  | none => (f.locals.get? name).getD .undefined

/-- The loop of the frame binds a name but has no pair to bind it to. -/
def lacks (f : Frame) (name : String) : Bool :=
  f.kind.loop?.any fun l => l.items.isEmpty && (name == l.valueName || some name == l.keyName)

def assign (f : Frame) (name : String) (value : Value) : Frame :=
  { f with locals := f.locals.insert name value }

/-- The names that the frame binds. -/
def names (f : Frame) : List String :=
  f.locals.names ++ (f.kind.loop?.map Loop.names).getD []

/-- The text that shows a frame. -/
def inspect (f : Frame) : String :=
  s!"<StackFrame {f.kind.name} {Text.quoted f.name}>"

/-- The place of a block frame in its chain. -/
def position (f : Frame) : Int :=
  match f.kind with
  | .block _ position _ => position
  | _ => 0

/-- The block whose definition runs in a frame. -/
def block? (f : Frame) : Option String :=
  match f.kind with
  | .block name _ _ => some name
  | _ => none

/-- What a host can ask of a frame; a block frame has to have an owner. -/
def fields (f : Frame) : Except Failure (List (String × Value)) :=
  if f.block?.isSome && f.owner?.isNone then .error .badIndex
  else .ok
    [("kind", .text f.kind.name),
     ("name", .text f.name),
     ("template", .text f.template.name),
     ("block", Template.nameValue f.block?),
     ("position", .int f.position),
     ("owner", Template.nameValue f.owner?),
     ("names", Template.namesValue (Text.sortedNames f.names)),
     ("repr", .text f.inspect)]

end Frame

/-- The frames of a render, the innermost first, with the number of macro calls among them. -/
structure CallStack where
  context : Context := {}
  limit : Int := 50
  frames : List Frame := []
  macroDepth : Nat := 0

namespace CallStack

def depth (s : CallStack) : Nat := s.frames.length

/-- The error of an operation that needs a frame. -/
def empty : RuntimeError := .general "Call stack is empty"

/-- The innermost frame. -/
def current (s : CallStack) : Except RuntimeError Frame :=
  match s.frames with
  | [] => .error empty
  | f :: _ => .ok f

/-- The template whose code runs. -/
def activeTemplate (s : CallStack) : Except RuntimeError Template := do
  return (← s.current).template

/-- Enters a scope; macro calls are refused once the limit is reached. -/
def push (s : CallStack) (f : Frame) : Except RuntimeError CallStack :=
  if f.kind.isCall then
    if s.limit ≤ s.macroDepth then .error (.recursionLimit s.limit f.name "macro")
    else .ok { s with frames := f :: s.frames, macroDepth := s.macroDepth + 1 }
  else .ok { s with frames := f :: s.frames }

/-- Leaves the innermost scope. -/
def pop (s : CallStack) : Option (Frame × CallStack) :=
  match s.frames with
  | [] => none
  | f :: rest =>
    some (f, { s with
      frames := rest
      macroDepth := if f.kind.isCall then s.macroDepth - 1 else s.macroDepth })

/-- The frames up to the boundary of the innermost macro call, which is one of them. -/
def inScope : List Frame → List Frame
  | [] => []
  | f :: rest => if f.kind.isCall then [f] else f :: inScope rest

/-- The value of a name in frames, looked up to the boundary, and otherwise in the context. -/
def findIn (context : Context) (name : String) : List Frame → Value
  | [] => context.lookup name
  | f :: rest =>
    match f.find name with
    | .undefined => if f.kind.isCall then .undefined else findIn context name rest
    | v => v

/-- The value of a name, the undefined marker if it is not visible. -/
def find (s : CallStack) (name : String) : Value := findIn s.context name s.frames

/-- The value of a name, as a host asks for it in frames that no render has pushed: a loop without
    pairs has no value for a name that it binds. -/
def lookupIn (context : Context) (name : String) : List Frame → Except Failure Value
  | [] => .ok (context.lookup name)
  | f :: rest =>
    if f.lacks name then .error .badIndex
    else
      match f.find name with
      | .undefined => if f.kind.isCall then .ok .undefined else lookupIn context name rest
      | v => .ok v

/-- The value of a name for a host. -/
def lookup (s : CallStack) (name : String) : Except Failure Value :=
  lookupIn s.context name s.frames

/-- Where no loop is without pairs, a host finds what a template finds. -/
theorem lookupIn_eq_find (context : Context) (name : String) (frames : List Frame)
    (h : ∀ f ∈ frames, f.lacks name = false) :
    lookupIn context name frames = .ok (findIn context name frames) := by
  induction frames with
  | nil => rfl
  | cons f rest ih =>
    have hf : f.lacks name = false := h f (by simp)
    have hr := ih fun g hg => h g (List.mem_cons_of_mem f hg)
    simp only [lookupIn, findIn, hf]
    cases f.find name <;> simp
    split <;> simp [hr]

/-- The names that are visible, possibly more than once. -/
def visibleNames (s : CallStack) : List String :=
  let names := (inScope s.frames).flatMap Frame.names
  if (inScope s.frames).any (·.kind.isCall) then names else names ++ s.context.names

/-- Binds a name in the innermost frame. -/
def assign (s : CallStack) (name : String) (value : Value) : Except RuntimeError CallStack :=
  match s.frames with
  | [] => .error empty
  | f :: rest => .ok { s with frames := f.assign name value :: rest }

/-- Frames with a name bound in the nearest one of a template or macro call, if there is one. -/
def assignWideIn (name : String) (value : Value) : List Frame → Option (List Frame)
  | [] => none
  | f :: rest =>
    if f.kind.isWide then some (f.assign name value :: rest)
    else (assignWideIn name value rest).map (f :: ·)

/-- Binds a name in the nearest frame of a template or macro call. -/
def assignWide (s : CallStack) (name : String) (value : Value) : Except RuntimeError CallStack :=
  match assignWideIn name value s.frames with
  | none => .error empty
  | some frames => .ok { s with frames }

/-- The innermost block frame inside the boundary. -/
def currentBlock (s : CallStack) : Option Frame :=
  (inScope s.frames).find? fun f =>
    match f.kind with
    | .block .. => true
    | _ => false

/-- The innermost loop inside the boundary. -/
def currentLoop (s : CallStack) : Option Loop :=
  (inScope s.frames).findSome? (·.kind.loop?)

/-- Frames with the innermost loop inside the boundary changed. -/
def changeLoopIn (change : Loop → Loop) : List Frame → List Frame
  | [] => []
  | f :: rest =>
    match f.kind with
    | .iteration l => { f with kind := .iteration (change l) } :: rest
    | .call => f :: rest
    | _ => f :: changeLoopIn change rest

/-- Changes the innermost loop inside the boundary. -/
def changeLoop (s : CallStack) (change : Loop → Loop) : CallStack :=
  { s with frames := changeLoopIn change s.frames }

def clear (s : CallStack) : CallStack := { s with frames := [], macroDepth := 0 }

/-- The text that shows a call stack. -/
def inspect (s : CallStack) : String :=
  s!"<CallStack depth={s.depth} macro_depth={s.macroDepth}>"

end CallStack

end Stencil
