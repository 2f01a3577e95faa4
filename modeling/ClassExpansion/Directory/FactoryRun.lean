set_option autoImplicit false

/- Values that factories make. A callable counts its calls and gives the count; a cell keeps the
first value that is put into it. Whatever else makes a value may change what is outside, but does
not reach the callable. -/
namespace ClassExpansion

/-- Something that is called without arguments: it gives a value and leaves a state. -/
abbrev Callable (σ α : Type) := σ → α × σ

/-- A callable tagged as the maker of a default. -/
structure Factory (σ α : Type) where
  /-- The callable, taken out of the factory. -/
  inner : Callable σ α

section
variable {σ α : Type}

/-- Calls the tagged callable. -/
def Factory.call (factory : Factory σ α) : Callable σ α := factory.inner

/-- Makes a default with the tagged callable. -/
def Factory.produce (factory : Factory σ α) : Callable σ α := factory.inner

/-- Makes a default with a callable that is not tagged. -/
def Callable.produce (callable : Callable σ α) : Callable σ α := callable

end

/-- How often the callable was called, counted from some start, what the cells hold, and the state
of what is outside. -/
structure FactoryRun (σ : Type := Unit) where
  count : Int
  cells : List (String × Int)
  outside : σ

/-- What can be done with the callable, with the factory that wraps it, and with cells. -/
inductive FactoryStep (σ : Type := Unit)
  /-- Calls the factory. -/
  | call
  /-- Makes a default with the factory. -/
  | produce
  /-- Makes a default with the bare callable. -/
  | producePlain
  /-- Calls the callable taken out of the factory. -/
  | callInner
  /-- Asks a cell for its value, which the factory makes if there is none. -/
  | materialize (cell : String)
  /-- Asks a cell for its value, which the initializer makes if there is none. -/
  | materializeWith (cell : String) (make : Callable σ Int)

/-- Asks a cell for its value, which is the given one if there is none. -/
def FactoryStep.materializeConst {σ : Type} (cell : String) (value : Int) : FactoryStep σ :=
  .materializeWith cell fun outside => (value, outside)

namespace FactoryRun

variable {σ : Type}

/-- A run before its first step. -/
def startIn (outside : σ) (count : Int) : FactoryRun σ := ⟨count, [], outside⟩

/-- A run with nothing outside. -/
def start (count : Int) : FactoryRun := startIn () count

/-- The callable, which gives the new count. -/
def invoke : Callable (FactoryRun σ) Int := fun run =>
  (run.count + 1, { run with count := run.count + 1 })

def factory : Factory (FactoryRun σ) Int := ⟨invoke⟩

/-- The initializer in a run, of which it changes nothing but what is outside. -/
def beside (make : Callable σ Int) : Callable (FactoryRun σ) Int := fun run =>
  let (value, outside) := make run.outside
  (value, { run with outside := outside })

/-- The value of a cell, made by `make` if there is none yet. -/
def ask (cell : String) (make : Callable (FactoryRun σ) Int) : Callable (FactoryRun σ) Int :=
  fun run =>
    match run.cells.lookup cell with
    | some value => (value, run)
    | none =>
      let (value, made) := make run
      (value, { made with cells := (cell, value) :: made.cells })

/-- The value that a step gives, and the run after it. -/
def step (run : FactoryRun σ) : FactoryStep σ → Int × FactoryRun σ
  | .call => factory.call run
  | .produce => factory.produce run
  | .producePlain => Callable.produce invoke run
  | .callInner => factory.inner run
  | .materialize cell => ask cell factory.produce run
  | .materializeWith cell make => ask cell (beside make) run

/-- The value of each step in turn, with the count after it. -/
def values (run : FactoryRun σ) : List (FactoryStep σ) → List (Int × Int)
  | [] => []
  | s :: rest =>
    let (value, after) := run.step s
    (value, after.count) :: after.values rest

end FactoryRun

end ClassExpansion
