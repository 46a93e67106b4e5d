import RecordSearch.Files.Tree

/-!
Programs that read and write files and read standard input, as data: each step says what it asks
for and how to go on with the answer. `onTree` runs a program on a tree of files.
-/

namespace RecordSearch

inductive Program (α : Type) where
  | done (a : α)
  | isFile (p : String) (next : Bool → Program α)
  | isThere (p : String) (next : Bool → Program α)
  | readFile (p : String) (next : Except FileError String → Program α)
  | readInput (next : String → Program α)
  | writeFile (p content : String) (next : Except FileError Unit → Program α)

namespace Program

def bind {α β : Type} : Program α → (α → Program β) → Program β
  | done a, f => f a
  | isFile p next, f => isFile p fun b => (next b).bind f
  | isThere p next, f => isThere p fun b => (next b).bind f
  | readFile p next, f => readFile p fun r => (next r).bind f
  | readInput next, f => readInput fun s => (next s).bind f
  | writeFile p content next, f => writeFile p content fun r => (next r).bind f

instance : Monad Program where
  pure := done
  bind := bind

/-! ## Single steps -/

def asksFile (p : String) : Program Bool := isFile p done

def asksThere (p : String) : Program Bool := isThere p done

def reads (p : String) : Program (Except FileError String) := readFile p done

def readsInput : Program String := readInput done

def writes (p content : String) : Program (Except FileError Unit) := writeFile p content done

/-- The first of the paths that is a file. -/
def firstFile : List String → Program (Option String)
  | [] => done none
  | p :: ps => do if ← asksFile p then done (some p) else firstFile ps

/-! ## On a tree -/

/-- Runs a program in the directory `base` of a tree, with `input` on standard input. -/
def onTree {α : Type} (base : List String) (input : String) : Program α → FileTree → α × FileTree
  | done a, t => (a, t)
  | isFile p next, t => onTree base input (next (t.isFile base p)) t
  | isThere p next, t => onTree base input (next (t.isThere base p)) t
  | readFile p next, t => onTree base input (next (t.read base p)) t
  | readInput next, t => onTree base input (next input) t
  | writeFile p content next, t =>
    match t.write base p content with
    | .ok t => onTree base input (next (.ok ())) t
    | .error e => onTree base input (next (.error e)) t

theorem onTree_bind {α β : Type} (base : List String) (input : String) (x : Program α)
    (f : α → Program β) (t : FileTree) :
    onTree base input (x.bind f) t =
      onTree base input (f (onTree base input x t).1) (onTree base input x t).2 := by
  induction x generalizing t with
  | done a => rfl
  | isFile p next ih => exact ih _ t
  | isThere p next ih => exact ih _ t
  | readFile p next ih => exact ih _ t
  | readInput next ih => exact ih _ t
  | writeFile p content next ih =>
    simp only [bind, onTree]
    cases t.write base p content with
    | ok t' => exact ih _ t'
    | error e => exact ih _ t

end Program

end RecordSearch
