import Interception.Error
import Interception.Table
import Interception.Text.Sorted

/-!
# Browsing contexts

Tabs and the frames below them. Every context knows its parent and the tab at
the root of its tree. Beside the tree stands, for some contexts, whether the
platform was told to bypass the cache.
-/

namespace Interception

structure ContextInfo where
  id : ContextId
  parent : Option ContextId
  topLevel : ContextId
deriving DecidableEq, Repr

def ContextInfo.isTopLevel (info : ContextInfo) : Bool := info.parent.isNone

structure Contexts where
  live : Table ContextId ContextInfo := .empty
  bypass : Table ContextId Bool := .empty
deriving DecidableEq, Repr

namespace Contexts

def get? (c : Contexts) (id : ContextId) : Option ContextInfo := c.live.get? id

def addTopLevel (c : Contexts) (id : ContextId) : ContextInfo × Contexts :=
  let info := ⟨id, none, id⟩
  (info, { c with live := c.live.insert id info })

def addChild (c : Contexts) (id parent : ContextId) :
    Option ContextInfo × Contexts :=
  match c.get? parent with
  | none => (none, c)
  | some above =>
    let info := ⟨id, some above.id, above.topLevel⟩
    (some info, { c with live := c.live.insert id info })

/-- Removes a context, its direct children and, if it is a tab, all its
frames. -/
def remove (c : Contexts) (id : ContextId) : Contexts where
  live := c.live.filter fun key info =>
    key ≠ id && info.topLevel ≠ id && info.parent ≠ some id
  bypass := c.bypass.erase id

def topLevels (c : Contexts) : List ContextId :=
  Text.sorted ((c.live.values.filter ContextInfo.isTopLevel).map (·.id))

def bypass? (c : Contexts) (id : ContextId) : Option Bool := c.bypass.get? id

def setBypass (c : Contexts) (id : ContextId) (bypass : Bool) : Contexts :=
  { c with bypass := c.bypass.insert id bypass }

def require (c : Contexts) (id : ContextId) : Except Error ContextInfo :=
  match c.get? id with
  | some info => .ok info
  | none => .error (.noSuchFrame id)

def requireTopLevel (c : Contexts) (id : ContextId) : Except Error Unit := do
  let info ← c.require id
  unless info.isTopLevel do throw (.invalidArgument (.notTopLevel id))

def requireEachTopLevel (c : Contexts) : List ContextId → Except Error Unit
  | [] => .ok ()
  | id :: ids => do
    c.requireTopLevel id
    c.requireEachTopLevel ids

/-- A list of contexts that a command is limited to names at least one, and tabs
only. -/
def requireTopLevels (c : Contexts) (ids : List ContextId) :
    Except Error Unit := do
  if ids.isEmpty then throw (.invalidArgument (.emptyList "contexts"))
  c.requireEachTopLevel ids

end Contexts

end Interception
