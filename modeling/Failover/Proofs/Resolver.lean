import Failover.Proofs.Endpoint
import Failover.Resolver
/-!
# What endpoints resolve to

An endpoint whose host has no addresses stands for itself, so nothing that is asked for gets lost.

* `Resolver.found` : the addresses of a host, none if the lookup fails;
* `Resolver.StandsFor` : what an endpoint stands for.  `Resolver.mem_resolve`: this and nothing else
  is what it resolves to;
* `Resolver.Merged` : what several endpoints resolve to together, whatever each lookup answers.
  `Resolver.resolveInTurn_merged`: it is what they do resolve to.  `Resolver.exists_resolveAll_eq`:
  any answers are those of some resolver.
-/

set_option autoImplicit false

namespace Failover.Resolver

/-! ## Single endpoints -/

/-- The addresses of the endpoint's host; there are none if the lookup fails. -/
def found (r : Resolver) (e : Endpoint) : List Address :=
  match r.lookup 0 e.host with
  | .ok ips => ips
  | .error _ => []

theorem resolve_value (r : Resolver) (e : Endpoint) : (r.resolve e).1 =
    if r.found e = [] then [e] else (r.found e).map fun ip => .ofAddress ip e.port := by
  unfold resolve found
  rcases r.lookup 0 e.host with f | ips
  · rfl
  · cases ips <;> rfl

/-- The endpoint stands for itself if nothing is found, and else for its addresses on its port. -/
def StandsFor (r : Resolver) (e c : Endpoint) : Prop :=
  (r.found e = [] ∧ c = e) ∨ ∃ ip ∈ r.found e, c = .ofAddress ip e.port

theorem mem_resolve {r : Resolver} {e c : Endpoint} : c ∈ (r.resolve e).1 ↔ r.StandsFor e c := by
  rw [resolve_value, StandsFor]
  split
  · rename_i hnone
    simp [hnone]
  · rename_i hsome
    rw [List.mem_map, or_iff_right (fun h => hsome h.1)]
    exact exists_congr fun ip => and_congr_right fun _ => eq_comm

theorem resolve_ne_nil (r : Resolver) (e : Endpoint) : (r.resolve e).1 ≠ [] := by
  rw [resolve_value]
  split
  · exact List.cons_ne_nil e []
  · rename_i hsome
    exact fun hnil => hsome (List.map_eq_nil_iff.mp hnil)

/-! ## Several endpoints -/

/-- The places `out` are what the endpoints stand for, each with the answers at its turn.  Of all that they
    resolve to, those stay that have no equal one before them. -/
structure Merged (asked : List (Resolver × Endpoint)) (out : List Endpoint) : Prop where
  unrepeated : out = Endpoint.unrepeated (asked.flatMap fun a => (a.1.resolve a.2).1)
  apart : out.Pairwise fun a b => a.same b = false
  complete : ∀ a ∈ asked, ∀ c, a.1.StandsFor a.2 c → ∃ d ∈ out, d.same c = true
  sound : ∀ c ∈ out, ∃ a ∈ asked, a.1.StandsFor a.2 c
  eq_nil_iff : out = [] ↔ asked = []

/-- **Endpoints resolve to all that they stand for, each place once.** -/
theorem resolveInTurn_merged (asked : List (Resolver × Endpoint)) :
    Merged asked (resolveInTurn asked).1 := by
  have hfirsts := Endpoint.firsts_distinct (asked.flatMap fun a => (a.1.resolve a.2).1)
  refine ⟨Endpoint.distinct_eq_unrepeated _, hfirsts.apart, ?_, ?_, ?_, ?_⟩
  · intro a ha c hc
    have hany := (hfirsts.any_iff c).mpr (List.any_eq_true.mpr
      ⟨c, List.mem_flatMap.mpr ⟨a, ha, mem_resolve.mpr hc⟩, Endpoint.same_self c⟩)
    exact List.any_eq_true.mp hany
  · intro c hc
    obtain ⟨a, ha, hca⟩ := List.mem_flatMap.mp (hfirsts.mem hc)
    exact ⟨a, ha, mem_resolve.mp hca⟩
  · intro hnil
    rw [List.eq_nil_iff_forall_not_mem]
    intro a ha
    exact resolve_ne_nil a.1 a.2 (List.flatMap_eq_nil_iff.mp (hfirsts.eq_nil hnil) a ha)
  · rintro rfl
    rfl

theorem resolveAll_merged (r : Resolver) (es : List Endpoint) :
    Merged (r.turns es) (r.resolveAll es).1 :=
  resolveInTurn_merged _

/-- Whatever the lookups find one after another, there is a resolver that answers so. -/
theorem exists_resolveAll_eq (asked : List (Resolver × Endpoint)) :
    ∃ r : Resolver, r.resolveAll (asked.map (·.2)) = resolveInTurn asked := by
  let r : Resolver := ⟨fun n host => asked[n]?.elim (.ok []) fun a => a.1.lookup 0 host⟩
  have hturns : (r.turns (asked.map (·.2))).map (fun a => a.1.resolve a.2) =
      asked.map fun a => a.1.resolve a.2 := by
    refine List.ext_getElem (by simp [turns]) fun n hn hn' => ?_
    have hn : n < asked.length := by simpa [turns] using hn
    simp [turns, resolve, after, r, hn]
  refine ⟨r, ?_⟩
  -- The answer depends on what each endpoint resolves to, and on nothing else.
  have hread : ∀ asked : List (Resolver × Endpoint), resolveInTurn asked =
      (fun found : List (List Endpoint × List Event) =>
        (Endpoint.distinct (found.flatMap (·.1)), found.flatMap (·.2)))
        (asked.map fun a => a.1.resolve a.2) := by
    intro asked
    simp only [resolveInTurn, List.flatMap_map]
  rw [resolveAll, hread, hread asked, hturns]

/-- Only nothing resolves to nothing. -/
theorem resolveAll_ne_nil (r : Resolver) {es : List Endpoint} (h : es ≠ []) :
    (r.resolveAll es).1 ≠ [] :=
  fun hnil => h (List.mapIdx_eq_nil_iff.mp ((r.resolveAll_merged es).eq_nil_iff.mp hnil))

end Failover.Resolver
