import ProcessAccounting.Registry

/-!
# What a registry answers

A registry is determined by the calls that filled it: under each name it has the constructor that
was registered last.  What it answers to a request is determined by that constructor, and without
a name by the platform alone.
-/

namespace ProcessAccounting

/-- A constructor with the name that it is registered under. -/
abbrev Registration := String × Constructor

/-- What a registry is asked for. -/
structure Request where
  asked : Option String
  platform : Platform
  system : System
  root : Pid
  config : Config

/-- The constructor was registered under the name, and none after it. -/
def RegisteredLast (calls : List Registration) (name : String) (constructor : Constructor) : Prop :=
  ∃ before after, calls = before ++ (name, constructor) :: after ∧ ∀ call ∈ after, call.1 ≠ name

theorem registeredLast_cons {call : Registration} {calls : List Registration} {name : String}
    {constructor : Constructor} :
    RegisteredLast (call :: calls) name constructor ↔
      RegisteredLast calls name constructor ∨
        call = (name, constructor) ∧ ∀ later ∈ calls, later.1 ≠ name := by
  constructor
  · rintro ⟨before, after, parts, last⟩
    cases before with
    | nil =>
      obtain ⟨rfl, rfl⟩ := List.cons.inj parts
      exact .inr ⟨rfl, last⟩
    | cons first before =>
      obtain ⟨rfl, rfl⟩ := List.cons.inj parts
      exact .inl ⟨before, after, rfl, last⟩
  · rintro (⟨before, after, rfl, last⟩ | ⟨rfl, last⟩)
    · exact ⟨call :: before, after, rfl, last⟩
    · exact ⟨[], calls, rfl, last⟩

namespace Request

/-- The name that a request is for: the one asked for, else the configured one. -/
inductive Named (q : Request) : String → Prop
  | asked {name : String} (asked : q.asked = some name) : Named q name
  | configured {name : String} (unasked : q.asked = none)
    (configured : q.config.implementation = some name) : Named q name

def Unnamed (q : Request) : Prop := q.asked = none ∧ q.config.implementation = none

/-- The constructor that a request leads to: the latest under its name on every platform, and
without a name the proc directory where the platform has one. -/
inductive LeadsTo (q : Request) (calls : List Registration) : Constructor → Prop
  | named {name : String} {constructor : Constructor} (named : q.Named name)
    (latest : RegisteredLast calls name constructor) : LeadsTo q calls constructor
  | platform (unnamed : q.Unnamed) (supported : q.platform = .linux) : LeadsTo q calls .proc

/-- What is chosen for a request after the calls that filled a registry.  A name that nobody has
registered is not replaced by another one, and the warning tells the known names. -/
inductive Chosen (q : Request) (calls : List Registration) (known : List String) : Choice → Prop
  | made {constructor : Constructor} {accountant : Accountant}
    (leads : q.LeadsTo calls constructor)
    (made : constructor q.system q.root q.config = .ok accountant) :
    Chosen q calls known { selection := .tree accountant, warnings := [] }
  | failed {constructor : Constructor} {cause : Fault} (leads : q.LeadsTo calls constructor)
    (failed : constructor q.system q.root q.config = .error cause) :
    Chosen q calls known
      { selection := .unavailable, warnings := [.constructionFailed q.root { cause }] }
  | unknown {name : String} (named : q.Named name) (unknown : ∀ call ∈ calls, call.1 ≠ name) :
    Chosen q calls known
      { selection := .unavailable, warnings := [.unknownImplementation name known] }
  | unsupported {system : String} (unnamed : q.Unnamed)
    (unsupported : q.platform = .unsupported system) :
    Chosen q calls known { selection := .unavailable, warnings := [] }

theorem named_iff {q : Request} {name : String} :
    q.Named name ↔ q.asked.or q.config.implementation = some name := by
  constructor
  · intro named
    cases named with
    | asked asked => rw [asked]; rfl
    | configured unasked configured => rw [unasked, configured]; rfl
  · intro resolved
    cases given : q.asked with
    | some other =>
      rw [given] at resolved
      exact .asked (given.trans resolved)
    | none =>
      rw [given] at resolved
      exact .configured given resolved

theorem unnamed_iff {q : Request} : q.Unnamed ↔ q.asked.or q.config.implementation = none := by
  rw [Unnamed, Option.or_eq_none_iff]

end Request

namespace Registry

variable {calls : List Registration} {name : String}

/-- The registry after a sequence of registrations. -/
def registerAll (r : Registry) (calls : List Registration) : Registry :=
  calls.foldl (fun r call => r.register call.1 call.2) r

theorem registerAll_cons (r : Registry) (call : Registration) (calls : List Registration) :
    r.registerAll (call :: calls) = (r.register call.1 call.2).registerAll calls := rfl

theorem builtin_registerAll (calls : List Registration) :
    builtin.registerAll calls = empty.registerAll ((procName, .proc) :: calls) := rfl

theorem get?_register (r : Registry) (name other : String) (constructor : Constructor) :
    (r.register name constructor).get? other =
      if name = other then some constructor else r.get? other := by
  simp [get?, register, Std.ExtTreeMap.getElem?_insert]

/-- A registry has the latest constructor under each name, or else the one that it had before. -/
theorem get?_registerAll_eq_some_iff {r : Registry} {constructor : Constructor} :
    (r.registerAll calls).get? name = some constructor ↔
      RegisteredLast calls name constructor ∨
        (∀ call ∈ calls, call.1 ≠ name) ∧ r.get? name = some constructor := by
  induction calls generalizing r with
  | nil => simp [registerAll, RegisteredLast]
  | cons call calls ih =>
    obtain ⟨other, replacement⟩ := call
    rw [registerAll_cons, ih, registeredLast_cons, get?_register]
    by_cases same : other = name
    · simp [same, and_comm]
    · simp [same]

theorem get?_registerAll_eq_none_iff {r : Registry} :
    (r.registerAll calls).get? name = none ↔
      (∀ call ∈ calls, call.1 ≠ name) ∧ r.get? name = none := by
  induction calls generalizing r with
  | nil => simp [registerAll]
  | cons call calls ih =>
    rw [registerAll_cons, ih, get?_register]
    by_cases same : call.1 = name
    · simp [same]
    · simp [same]

theorem get?_empty (name : String) : empty.get? name = none := by simp [empty, get?]

theorem names_ascending (r : Registry) : r.names.Pairwise (· < ·) := by
  have ordered := Std.ExtTreeMap.ordered_keys (t := r.constructors)
  exact ordered.imp fun lt => compareOfLessAndEq_eq_lt.mp lt

theorem mem_names_iff {r : Registry} : name ∈ r.names ↔ r.get? name ≠ none := by
  rw [names, Std.ExtTreeMap.mem_keys, Std.ExtTreeMap.mem_iff_isSome_getElem?, get?,
    Option.isSome_iff_ne_none]

theorem get?_of_registeredLast {constructor : Constructor} :
    (empty.registerAll calls).get? name = some constructor ↔
      RegisteredLast calls name constructor := by
  simp [get?_registerAll_eq_some_iff, get?_empty]

theorem get?_of_unknown :
    (empty.registerAll calls).get? name = none ↔ ∀ call ∈ calls, call.1 ≠ name := by
  rw [get?_registerAll_eq_none_iff, get?_empty, eq_self, and_true]

/-- What the registry chooses for a request. -/
def answer (r : Registry) (q : Request) : Choice :=
  r.create q.asked q.platform q.system q.root q.config

section answers

variable {r : Registry} {q : Request} {constructor : Constructor}

theorem answer_of_present (named : q.Named name) (present : r.get? name = some constructor) :
    r.answer q = .ofConstructor constructor q.system q.root q.config := by
  simp [answer, create, Request.named_iff.mp named, present]

theorem answer_of_absent (named : q.Named name) (absent : r.get? name = none) :
    r.answer q =
      { selection := .unavailable, warnings := [.unknownImplementation name r.names] } := by
  simp [answer, create, Request.named_iff.mp named, absent]

theorem answer_of_unnamed (unnamed : q.Unnamed) :
    r.answer q = .ofConstructor? none q.platform q.system q.root q.config := by
  simp [answer, create, Request.unnamed_iff.mp unnamed, Choice.ofConstructor?]

theorem answer_of_leadsTo (leads : q.LeadsTo calls constructor) :
    (empty.registerAll calls).answer q =
      .ofConstructor constructor q.system q.root q.config := by
  cases leads with
  | named named latest => exact answer_of_present named (get?_of_registeredLast.mpr latest)
  | platform unnamed supported =>
    rw [answer_of_unnamed unnamed, supported]
    rfl

theorem chosen_of_leadsTo {known : List String} (leads : q.LeadsTo calls constructor) :
    q.Chosen calls known (.ofConstructor constructor q.system q.root q.config) := by
  unfold Choice.ofConstructor
  split
  · next accountant made => exact .made leads made
  · next cause failed => exact .failed leads failed

end answers

/-- The answer to a request is among those that the calls leave open. -/
theorem chosen_answer (calls : List Registration) (q : Request) :
    q.Chosen calls (empty.registerAll calls).names ((empty.registerAll calls).answer q) := by
  cases resolved : q.asked.or q.config.implementation with
  | some name =>
    have named := Request.named_iff.mpr resolved
    cases present : (empty.registerAll calls).get? name with
    | some constructor =>
      rw [answer_of_present named present]
      exact chosen_of_leadsTo (.named named (get?_of_registeredLast.mp present))
    | none =>
      rw [answer_of_absent named present]
      exact .unknown named (get?_of_unknown.mp present)
  | none =>
    have unnamed := Request.unnamed_iff.mpr resolved
    rw [answer_of_unnamed unnamed]
    cases platform : q.platform with
    | linux => exact chosen_of_leadsTo (.platform unnamed platform)
    | unsupported system => exact .unsupported unnamed platform

/-- The calls leave one answer open. -/
theorem answer_eq_of_chosen {q : Request} {choice : Choice}
    (chosen : q.Chosen calls (empty.registerAll calls).names choice) :
    (empty.registerAll calls).answer q = choice := by
  cases chosen with
  | made leads made => rw [answer_of_leadsTo leads, Choice.ofConstructor, made]
  | failed leads failed => rw [answer_of_leadsTo leads, Choice.ofConstructor, failed]
  | unknown named unknown => exact answer_of_absent named (get?_of_unknown.mpr unknown)
  | unsupported unnamed unsupported =>
    rw [answer_of_unnamed unnamed, unsupported]
    rfl

/-- The registry knows the names that it was called with, in ascending order, and answers every
request as the calls demand.  Without a name, what is registered does not matter. -/
structure Follows (r : Registry) (calls : List Registration) : Prop where
  ascending : r.names.Pairwise (· < ·)
  known : ∀ name, name ∈ r.names ↔ ∃ constructor, (name, constructor) ∈ calls
  chosen : ∀ (q : Request) (choice : Choice),
    r.answer q = choice ↔ q.Chosen calls r.names choice
  unnamed : ∀ q : Request, q.Unnamed →
    r.answer q = .ofConstructor? none q.platform q.system q.root q.config

theorem follows_registerAll_empty (calls : List Registration) :
    (empty.registerAll calls).Follows calls where
  ascending := names_ascending _
  known := by
    intro name
    rw [mem_names_iff, Ne, get?_of_unknown]
    simp
  chosen := by
    intro q choice
    constructor
    · rintro rfl
      exact chosen_answer calls q
    · exact answer_eq_of_chosen
  unnamed := fun _ => answer_of_unnamed

/-- A registry follows the calls that filled it.  One with the constructors that every program
has follows them as if the constructor of the proc directory had been registered first, so a call
can replace it. -/
theorem registerAll_follows (calls : List Registration) :
    (empty.registerAll calls).Follows calls ∧
      (builtin.registerAll calls).Follows ((procName, .proc) :: calls) := by
  rw [builtin_registerAll]
  exact ⟨follows_registerAll_empty calls, follows_registerAll_empty _⟩

example : (builtin.registerAll [("fixed", .proc), (procName, .proc)]).names =
    ["fixed", "procfs"] := by
  decide +kernel

end Registry

end ProcessAccounting
