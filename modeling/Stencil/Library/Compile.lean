import Stencil.Template.Draft

/-!
# Compiling and loading

A template is compiled together with the templates that it names by literals.  Those come from the
cache or from a loader, and what was compiled on the way stays in the cache even if the template
itself cannot be compiled.
-/

namespace Stencil.Library

/-- How a template that another one names is loaded: the name, the template that names it, and the
paths of the templates that are being compiled. -/
abbrev Linker :=
  (name : String) → (referrer : Option String) → (underway : List String) →
    Keeping Library (Option Template)

/-- Compiles a source under a name. -/
def compileWith (link : Linker) (name source : String) (underway : List String) :
    Keeping Library Template := do
  modify fun l => { l with compiledAny := true }
  let l ← get
  let tokens ← Halt.ofExcept (Token.tokenize l.settings.trimming name source)
  let scope : DraftScope :=
    { name, catalog := l.catalog, settings := l.settings
      load := fun other => link other (some name) underway }
  let reader := Node.readAll l.settings.maxNestingDepth (tokens.length + 1) []
  let (result, draft) := ((reader scope).run { tokens, library := l }).run
  let l := draft.library
  set { l with serial := l.serial + 1 }
  let nodes ← liftExcept result
  let level :=
    match draft.parent with
    | some (.linked t) => t.level + 1
    | _ => 0
  pure
    { name, source, tokens, nodes, parent := draft.parent, blocks := draft.blocks
      macros := draft.macros, level, options := l.settings.renderOptions, serial := l.serial }
where
  /-- The result of a computation whose state was already taken over. -/
  liftExcept {α : Type} (r : Except Halt α) : Keeping Library α :=
    match r with
    | .ok a => pure a
    | .error h => throw h

/-- Loads a template, following the names in it at most `fuel` deep.  There is no answer for a
template that is being compiled. -/
def link : (fuel : Nat) → Linker
  | 0 => fun _ _ _ => throw .spent
  | fuel + 1 => fun name referrer underway => do
    let l ← get
    let known := if l.settings.debug then none else l.cached? referrer name
    match known with
    | some t => pure (some t)
    | none =>
      let (path, source) ← Halt.ofExcept (l.open? referrer name)
      if underway.contains path then pure none
      else
        let t ← compileWith (link fuel) path source (path :: underway)
        if !l.settings.debug then
          modify fun l => { l with cache := l.cache.insert path t }
        pure (some t)

/-- How deep the names in templates are followed: more often than there are templates in memory,
and beyond what paths of files can spell. -/
def linkDepth (l : Library) : Nat :=
  l.loaders.foldl (fun depth loader => depth + loader.held) 10000

/-- Compiles a source under a name.  The result is not kept in the cache. -/
def compile (name source : String) : Keeping Library Template := do
  let l ← get
  compileWith (link l.linkDepth) name source [name]

/-- The name of templates that have none. -/
def anonymous : String := "<string>"

/-- Compiles a source without a name. -/
def fromString (source : String) : Keeping Library Template := compile anonymous source

/-- Loads and compiles a template past the cache. -/
def fromFile (name : String) : Keeping Library Template := do
  let l ← get
  let (path, source) ← Halt.ofExcept (l.open? none name)
  compileWith (link l.linkDepth) path source [path]

/-- Loads a template that is named during a render. -/
def load (referrer : Option String) (name : String) : Keeping Library Template := do
  let l ← get
  match ← link l.linkDepth name referrer [] with
  | some t => pure t
  | none => throw (.error (.loader name .unfinished))

/-- Loads a template through the cache. -/
def fromCache (name : String) : Keeping Library Template := load none name

end Stencil.Library
