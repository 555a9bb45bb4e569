import FactStore.Program.Factory
import FactStore.Proofs.Program.FirstOfName
import Mathlib.Data.String.Basic

/-
  This file proves that the answers of the registry of a
  process agree with each other after any requests, refused
  ones among them.  The registered factories are the built-in
  ones, whichever request comes first, and those registered
  first under their names, be it by a request or by the
  constructor that a request for a new program runs.  A
  lookup, the list of the names and a request for a new
  program all go by them.

  Key definitions include:
    * `Factories.Lists`, `Registry.Holds`
    * `Construction.offers`
    * `Process`, `Process.call`, `Process.callAll`

  Main statements include:
    * `Factories.pairwise_sortedNames`
    * `Registry.Holds.construction`
    * `Process.holds_callAll`
    * `Registry.agree_after_calls`
-/

namespace FactStore

variable {κ : Type}

------------------------------------------------------------
-- Factories by Name
------------------------------------------------------------

namespace Factories

/- The registered factories, each under the name that it has. -/
def Lists
    (fs : Factories κ)
    (kept : List (Factory κ)) : Prop :=
  fs.entries = kept.map fun f => (f.name, f)

variable {fs : Factories κ}
variable {kept : List (Factory κ)}
variable {f : Factory κ}

theorem Lists.names
    (h : fs.Lists kept) : fs.names = kept.map (·.name) :=
  NameMap.names_of_entries h

/- No name is registered twice. -/
theorem Lists.nodup
    (h : fs.Lists kept) : (kept.map (·.name)).Nodup := by
  rw [← h.names]
  exact fs.distinct

/- A registered factory is found under its name. -/
theorem Lists.get?_of_mem
    (h : fs.Lists kept)
    (hMem : f ∈ kept) : fs.get? f.name = some f :=
  NameMap.get?_of_entries h hMem

/- What is found under a name has that name. -/
theorem Lists.name_of_get?
    (h : fs.Lists kept)
    {name : String}
    (hFind : fs.get? name = some f) : f.name = name := by
  rcases NameMap.exists_of_get?_of_entries h hFind with
    ⟨g, _, hName, rfl⟩
  exact hName

/- A name that is taken is refused, told the name. -/
theorem Lists.insertUnique_of_taken
    (h : fs.Lists kept)
    (hTaken : f.name ∈ kept.map (·.name)) :
    fs.insertUnique f =
      (.error (.programRegisteredTwice f.name), fs) := by
  rw [← h.names] at hTaken
  exact if_pos (NameMap.contains_iff_mem_names.mpr hTaken)

/- A name that is free is taken up behind the others. -/
theorem Lists.insertUnique_of_free
    (h : fs.Lists kept)
    (hFree : f.name ∉ kept.map (·.name)) :
    ∃ fs', fs.insertUnique f = (.ok (), fs') ∧
      fs'.Lists (kept ++ [f]) := by
  rw [← h.names] at hFree
  exact
    ⟨_, if_neg (mt NameMap.contains_iff_mem_names.mp hFree),
      NameMap.entries_insert_of_entries h hFree⟩

/- The list of the names has no others. -/
theorem mem_sortedNames_iff
    {name : String} : name ∈ fs.sortedNames ↔ name ∈ fs.names :=
  List.mem_mergeSort

/- Just the listed names find a factory. -/
theorem isSome_get?_iff
    {name : String} :
    (fs.get? name).isSome ↔ name ∈ fs.sortedNames := by
  rw [mem_sortedNames_iff, ← NameMap.contains_iff_mem_names]
  rfl

/- The names are listed in strictly ascending order. -/
theorem pairwise_sortedNames
    (fs : Factories κ) : fs.sortedNames.Pairwise (· < ·) := by
  let atMost := fun a b : String => !decide (b < a)
  have hIff : ∀ a b : String, atMost a b = true ↔ a ≤ b := by
    intro a b
    simp only [atMost, Bool.not_eq_true', decide_eq_false_iff_not,
      not_lt]
  have hSorted :
      fs.sortedNames.Pairwise fun a b => atMost a b := by
    apply List.pairwise_mergeSort
    · intro a b c hab hbc
      rw [hIff] at hab hbc ⊢
      exact le_trans hab hbc
    · intro a b
      rw [Bool.or_eq_true, hIff, hIff]
      exact le_total a b
  have hDistinct : fs.sortedNames.Nodup :=
    (List.mergeSort_perm _ _).nodup_iff.mpr fs.distinct
  refine (hSorted.and hDistinct).imp ?_
  rintro a b ⟨hLe, hNe⟩
  exact lt_of_le_of_ne ((hIff a b).mp hLe) hNe

end Factories

------------------------------------------------------------
-- Registries
------------------------------------------------------------

namespace Registry

/- Once it is made, a registry holds just some factories. -/
def Holds
    (r : Registry κ)
    (kept : List (Factory κ)) : Prop :=
  ∃ fs, r.factories = .ok fs ∧ fs.Lists kept

variable {r : Registry κ}
variable {kept : List (Factory κ)}
variable {f : Factory κ}

/- The built-in programs can be registered in the first place. -/
theorem holds_untouched :
    (untouched : Registry κ).Holds [.builtin] :=
  ⟨_, rfl, rfl⟩

theorem Holds.nodup
    (h : r.Holds kept) : (kept.map (·.name)).Nodup := by
  rcases h with ⟨fs, _, hLists⟩
  exact hLists.nodup

/- A question is answered by the factories, which stay. -/
theorem ask_eq
    {α : Type}
    {fs : Factories κ}
    (h : r.factories = .ok fs)
    (question : Factories κ → α) :
    r.ask question = (.ok (question fs), ⟨some fs⟩) := by
  rw [ask, h]

theorem Holds.ask
    {α : Type}
    (h : r.Holds kept)
    (question : Factories κ → α) :
    (r.ask question).2.Holds kept := by
  rcases h with ⟨fs, hFactories, hLists⟩
  rw [ask_eq hFactories]
  exact ⟨fs, rfl, hLists⟩

/- A name that is taken is refused, and the factories stay. -/
theorem Holds.register_of_taken
    (h : r.Holds kept)
    (hTaken : f.name ∈ kept.map (·.name)) :
    (r.register f).1 = .error (.programRegisteredTwice f.name) ∧
      (r.register f).2.factories = r.factories := by
  rcases h with ⟨fs, hFactories, hLists⟩
  have hRefused := hLists.insertUnique_of_taken hTaken
  rw [register, hFactories]
  dsimp only
  rw [hRefused]
  exact ⟨rfl, rfl⟩

/- A name that is free is taken up behind the others. -/
theorem Holds.register_of_free
    (h : r.Holds kept)
    (hFree : f.name ∉ kept.map (·.name)) :
    (r.register f).1 = .ok () ∧
      (r.register f).2.Holds (kept ++ [f]) := by
  rcases h with ⟨fs, hFactories, hLists⟩
  rcases hLists.insertUnique_of_free hFree with
    ⟨fs', hInsert, hGrown⟩
  rw [register, hFactories]
  dsimp only
  rw [hInsert]
  exact ⟨rfl, fs', rfl, hGrown⟩

/- A factory is taken up if its name is free. -/
theorem Holds.register
    (h : r.Holds kept)
    (f : Factory κ) :
    (r.register f).2.Holds
      (Naming.firsts (·.name) (kept ++ [f])) := by
  rw [Naming.firsts_concat_of_nodup h.nodup]
  split_ifs with hTaken
  · rcases h with ⟨fs, hFactories, hLists⟩
    have hSame :=
      (Holds.register_of_taken ⟨fs, hFactories, hLists⟩ hTaken).2
    exact ⟨fs, hSame.trans hFactories, hLists⟩
  · exact (h.register_of_free hTaken).2

/- What holds the factories kept holds the first of them. -/
theorem Holds.firsts
    (h : r.Holds kept) :
    r.Holds (Naming.firsts (·.name) (kept ++ [])) := by
  rw [List.append_nil, Naming.firsts_of_nodup h.nodup]
  exact h

end Registry

------------------------------------------------------------
-- Constructors
------------------------------------------------------------

/-
  The factories that a constructor registers on its way,
  refused ones among them.
-/
def Construction.offers :
    Construction κ → Registry κ → Store → List (Factory κ)
| finish _, _, _ => []
| work change next, r, s => (next s).offers r (change s)
| register f next, r, s =>
    let (outcome, r') := r.register f
    f :: (next outcome).offers r' s
| look next, r, s =>
    match r.ask id with
    | (.error _, _) => []
    | (.ok fs, r') => (next fs).offers r' s

/- The factories that the constructor of a factory registers. -/
def Factory.offers
    (host : Host κ)
    (f : Factory κ)
    (r : Registry κ)
    (s : Store) : List (Factory κ) :=
  match f.builder with
  | .builtin => []
  | .host k => (host k).offers r s

namespace Registry

variable {r : Registry κ}
variable {kept : List (Factory κ)}

/- After a constructor the first of each name are registered. -/
theorem Holds.construction
    (h : r.Holds kept)
    (c : Construction κ)
    (s : Store) :
    (c.run r s).2.1.Holds
      (Naming.firsts (·.name) (kept ++ c.offers r s)) := by
  induction c generalizing r kept s with
  | finish outcome => exact h.firsts
  | work change next ih => exact ih s h (change s)
  | register f next ih =>
      have hRest := ih (r.register f).1 (h.register f) s
      rw [Naming.firsts_firsts_append, List.append_assoc,
        List.singleton_append] at hRest
      exact hRest
  | look next ih =>
      rcases h with ⟨fs, hFactories, hLists⟩
      simp only [Construction.run, Construction.offers,
        ask_eq hFactories]
      exact ih fs ⟨fs, rfl, hLists⟩ s

theorem Holds.make
    (h : r.Holds kept)
    (host : Host κ)
    (f : Factory κ)
    (s : Store) :
    (f.make host r s).2.1.Holds
      (Naming.firsts (·.name) (kept ++ f.offers host r s)) := by
  unfold Factory.make Factory.offers
  cases f.builder with
  | builtin => exact h.firsts
  | host k => exact h.construction (host k) s

------------------------------------------------------------
-- Requests
------------------------------------------------------------

/- What the registry of a process can be asked for. -/
inductive Call (κ : Type) where
| register (f : Factory κ)
| find (name : String)
| isRegistered (name : String)
| names
| make (name : String)
deriving DecidableEq, Repr

end Registry

/- The registry and the store of a process. -/
structure Process (κ : Type) where
  registry : Registry κ
  store : Store

namespace Process

variable (host : Host κ)

/- The process after a request, whether or not it fails. -/
def call (p : Process κ) : Registry.Call κ → Process κ
| .register f => { p with registry := (p.registry.register f).2 }
| .find name => { p with registry := (p.registry.find? name).2 }
| .isRegistered name =>
    { p with registry := (p.registry.isRegistered name).2 }
| .names => { p with registry := p.registry.names.2 }
| .make name =>
    let (_, r, s) := p.registry.make? host name p.store
    ⟨r, s⟩

/- The factories that a request registers, refused ones too. -/
def offers (p : Process κ) : Registry.Call κ → List (Factory κ)
| .register f => [f]
| .make name =>
    match p.registry.find? name with
    | (.ok (some f), r) => f.offers host r p.store
    | _ => []
| _ => []

/- The process after requests, one after the other. -/
def callAll
    (p : Process κ)
    (calls : List (Registry.Call κ)) : Process κ :=
  calls.foldl (call host) p

/- The factories that requests register, one after the other. -/
def offersAll
    (p : Process κ) : List (Registry.Call κ) → List (Factory κ)
| [] => []
| c :: calls =>
    p.offers host c ++ (p.call host c).offersAll calls

variable {host}
variable {p : Process κ}
variable {kept : List (Factory κ)}

/- One request takes up what it offers, if the names are free. -/
theorem holds_call
    (h : p.registry.Holds kept)
    (c : Registry.Call κ) :
    (p.call host c).registry.Holds
      (Naming.firsts (·.name) (kept ++ p.offers host c)) := by
  cases c with
  | register f => exact h.register f
  | find name => exact (h.ask _).firsts
  | isRegistered name => exact (h.ask _).firsts
  | names => exact (h.ask _).firsts
  | make name =>
      rcases h with ⟨fs, hFactories, hLists⟩
      have hMade : (⟨some fs⟩ : Registry κ).Holds kept :=
        ⟨fs, rfl, hLists⟩
      simp only [call, offers, Registry.make?, Registry.find?,
        Registry.ask_eq hFactories]
      cases fs.get? name with
      | none => exact hMade.firsts
      | some f => exact hMade.make host f p.store

/-
  After any requests the factories are those that were there
  and those offered, each the first of its name.
-/
theorem holds_callAll
    (h : p.registry.Holds kept)
    (calls : List (Registry.Call κ)) :
    (p.callAll host calls).registry.Holds
      (Naming.firsts (·.name)
        (kept ++ p.offersAll host calls)) := by
  induction calls generalizing p kept with
  | nil => exact h.firsts
  | cons c calls ih =>
      have hCall : (p.call host c).registry.Holds _ :=
        holds_call h c
      have hRest := ih hCall
      rw [Naming.firsts_firsts_append, List.append_assoc] at hRest
      exact hRest

end Process

------------------------------------------------------------
-- Agreement
------------------------------------------------------------

namespace Registry

variable {r : Registry κ}
variable {fs : Factories κ}
variable {name : String}

/- A name without a factory makes no program. -/
theorem make?_of_none
    (hFactories : r.factories = .ok fs)
    (hNone : fs.get? name = none)
    (host : Host κ)
    (s : Store) :
    r.make? host name s = (.ok none, ⟨some fs⟩, s) := by
  simp only [make?, find?, ask_eq hFactories, hNone]

/- A name with a factory makes what its constructor makes. -/
theorem make?_of_some
    {f : Factory κ}
    (hFactories : r.factories = .ok fs)
    (hSome : fs.get? name = some f)
    (host : Host κ)
    (s : Store) :
    r.make? host name s =
      ((f.make host ⟨some fs⟩ s).1.map some,
        (f.make host ⟨some fs⟩ s).2) := by
  simp only [make?, find?, ask_eq hFactories, hSome]

/-
  Whatever a process has asked of its registry, in any order,
  and whatever the constructors did that ran on the way,
  registered are the built-in program and the first factory
  offered for each other name.  Each is found under its name.
  A name that is taken is refused and the factories stay the
  same; one that is free is not refused.  The registered names
  are listed in strictly ascending order.  A listed name finds
  a factory of that name, and a request for a new program ends
  as its constructor does; any other name finds none and makes
  none, and nothing is changed.
-/
theorem agree_after_calls
    (host : Host κ)
    (calls : List (Call κ))
    (s₀ : Store) :
    let start : Process κ := ⟨untouched, s₀⟩
    let r := (start.callAll host calls).registry
    let kept :=
      Naming.firsts (·.name)
        (Factory.builtin :: start.offersAll host calls)
    let taken := kept.map (·.name)
    (r.find? "transitive_closure").1 =
        .ok (some Factory.builtin) ∧
      (∀ f ∈ kept, (r.find? f.name).1 = .ok (some f)) ∧
      (∀ f : Factory κ, f.name ∈ taken →
        (r.register f).1 =
            .error (.programRegisteredTwice f.name) ∧
          (r.register f).2.factories = r.factories) ∧
      (∀ f : Factory κ, f.name ∉ taken →
        (r.register f).1 = .ok ()) ∧
      ∃ listed,
        r.names.1 = .ok listed ∧
        listed.Pairwise (· < ·) ∧
        (∀ name, name ∈ listed ↔ name ∈ taken) ∧
        ∀ name, ∃ found,
          (r.find? name).1 = .ok found ∧
          (found.isSome ↔ name ∈ listed) ∧
          (r.isRegistered name).1 = .ok found.isSome ∧
          (found = none → ∀ s,
            (r.make? host name s).1 = .ok none ∧
              (r.make? host name s).2.1.factories =
                r.factories ∧
              (r.make? host name s).2.2 = s) ∧
          ∀ f ∈ found, f.name = name ∧ ∀ s,
            let made := f.make host (r.find? name).2 s
            (r.make? host name s).1 = made.1.map some ∧
              (r.make? host name s).1 ≠ .ok none ∧
              (r.make? host name s).2 = made.2 := by
  intro start r kept taken
  have hStart : start.registry.Holds [.builtin] :=
    holds_untouched
  have hHolds : r.Holds kept :=
    Process.holds_callAll hStart calls
  rcases hHolds with ⟨fs, hFactories, hLists⟩
  have hTaken : taken = fs.names := hLists.names.symm
  have hFind :
      ∀ name, r.find? name = (.ok (fs.get? name), ⟨some fs⟩) :=
    fun name => ask_eq hFactories _
  have hFound :
      ∀ f ∈ kept, (r.find? f.name).1 = .ok (some f) := by
    intro f hMem
    rw [hFind, hLists.get?_of_mem hMem]
  refine
    ⟨hFound _ List.mem_cons_self, hFound,
      fun f => Holds.register_of_taken ⟨fs, hFactories, hLists⟩,
      fun f hFree =>
        (Holds.register_of_free ⟨fs, hFactories, hLists⟩ hFree).1,
      fs.sortedNames, ?_, fs.pairwise_sortedNames,
      fun name => ?_, fun name => ⟨fs.get? name, ?_,
        Factories.isSome_get?_iff, ?_, fun hNone s => ?_,
        fun f hMem =>
          ⟨hLists.name_of_get? hMem, fun s => ?_⟩⟩⟩
  · rw [names, ask_eq hFactories]
  · rw [hTaken, Factories.mem_sortedNames_iff]
  · rw [hFind]
  · rw [isRegistered, ask_eq hFactories]
    rfl
  · rw [make?_of_none hFactories hNone]
    exact ⟨rfl, hFactories.symm, rfl⟩
  · rw [make?_of_some hFactories hMem, hFind]
    refine ⟨rfl, ?_, rfl⟩
    cases (f.make host ⟨some fs⟩ s).1 with
    | ok p => simp [Except.map]
    | error failure => simp [Except.map]

/-
  A constructor that registers another factory before it is
  refused its own name, and fails: what it registered stays.
-/
example :
    let failing : Host Bool := fun _ =>
      .register ⟨"inner", .builtin⟩ fun _ =>
        .register ⟨"outer", .host false⟩ fun
          | .ok _ => .finish (.error .symbolsExhausted)
          | .error v => .finish (.error v)
    let start : Process Bool := ⟨untouched, default⟩
    let r :=
      (start.callAll failing
        [.register ⟨"outer", .host true⟩,
          .make "outer"]).registry
    (r.make? failing "outer" default).1 =
        .error (.violation (.programRegisteredTwice "outer")) ∧
      (r.find? "outer").1 = .ok (some ⟨"outer", .host true⟩) ∧
      (r.find? "inner").1 = .ok (some ⟨"inner", .builtin⟩) :=
  ⟨rfl, rfl, rfl⟩

end Registry

end FactStore
