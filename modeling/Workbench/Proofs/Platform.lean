import Workbench.Platform
import Workbench.Proofs.Plugin.Registry

/-!
# Two pages about a plugin

The list of plugins reads the records of the registry, in which a plugin in use is active. The page on one plugin asks the plugin.
If this writes its record anew each time, what the registration noted is not in it.
-/

namespace Workbench

open Plugin Registry Table Task

variable {σ : Type} {r : Registry σ} {s : σ} {name : String} {plugin : Instance σ}

/-- A call whose plugin, if it is made, writes its record anew each time. -/
def Plugin.Call.Fresh : Call σ → Prop
  | .register make config => ∀ s p s', (make config).perform s = (.ok p, s') → p.keepsRecord = false
  | .unregister _ => True

def Plugin.Registry.AllFresh (r : Registry σ) : Prop := ∀ name p, get? name r.plugins = some p → p.keepsRecord = false

lemma Plugin.Registry.AllFresh.answer (h : r.AllFresh) {call : Call σ} (hc : call.Fresh) (s : σ) :
    (r.answer s call).registry.AllFresh := by
  have ha := answered_answer r s call
  generalize r.answer s call = a at ha
  cases ha with
  | unmade | refused | absent | kept => exact h
  | entered hp =>
    intro name q hq
    rw [Registry.insert, get?_set] at hq
    split at hq
    · exact Option.some.inj hq ▸ hc _ _ _ (of_prepare_eq_ok hp).1
    · exact h name q hq
  | @removed name =>
    intro other q hq
    rw [plugins_remove, get?_erase] at hq
    split at hq
    · cases hq
    · exact h other q hq

lemma Plugin.Registry.AllFresh.run {calls : List (Call σ)} (hall : ∀ call ∈ calls, call.Fresh) (start : σ) :
    (Registry.run start calls).1.AllFresh := by
  suffices h : ∀ x : Registry σ × σ, x.1.AllFresh → (calls.foldl after x).1.AllFresh from h _ fun _ _ h => by cases h
  induction calls with
  | nil => exact fun _ h => h
  | cons call calls ih =>
    obtain ⟨hc, hall⟩ := List.forall_mem_cons.mp hall
    exact fun x h => ih hall _ (h.answer hc x.2)

namespace Platform

variable {p p' : Platform} {info : Json}

def listedStatus (p : Platform) (name : String) : String := ((p.pluginList.getD "plugins").getD name).textD "status"

lemma of_pluginInfo_eq_ok (h : (pluginInfo name).perform p = (.ok info, p')) : ∃ plugin m,
    get? name p.registry.plugins = some plugin ∧ p.registry.described name plugin = .ok m ∧ info.textD "status" = m.status.name := by
  obtain ⟨_, _, hget, h⟩ := perform_bind_eq_ok_iff.mp h
  cases hget
  cases hp : get? name p.registry.plugins with
  | none => simp [hp] at h
  | some plugin =>
    simp only [hp] at h
    obtain ⟨m, _, hm, h⟩ := perform_bind_eq_ok_iff.mp h
    obtain ⟨_, _, -, h⟩ := perform_bind_eq_ok_iff.mp h
    obtain ⟨_, _, -, h⟩ := perform_bind_eq_ok_iff.mp h
    obtain ⟨_, _, -, h⟩ := perform_bind_eq_ok_iff.mp h
    cases h
    refine ⟨plugin, m, rfl, ?_, rfl⟩
    generalize p.registry.described name plugin = d at hm
    cases d <;> cases hm
    rfl

/-- **Where the two pages agree.** The list has every registered plugin as active, the page on it has the status that the plugin tells. -/
theorem pluginInfo_status_iff {start : Quality.Assistant} {calls : List (Call Quality.Assistant)} (hfresh : ∀ call ∈ calls, call.Fresh)
    (hrun : (Registry.run start calls).1 = p.registry) (hinfo : (pluginInfo name).perform p = (.ok info, p')) :
    ∃ plugin m, get? name p.registry.plugins = some plugin ∧ plugin.metadata = .ok m ∧ info.textD "status" = m.status.name ∧
      p.listedStatus name = "active" ∧ (info.textD "status" = p.listedStatus name ↔ m.status = .active) := by
  obtain ⟨plugin, m, hplugin, hm, hstatus⟩ := of_pluginInfo_eq_ok hinfo
  have hfresh := AllFresh.run hfresh start name plugin
  have hcons : p.registry.Consistent := hrun ▸ Reachable.consistent ⟨start, calls, rfl⟩
  rw [hrun] at hfresh
  obtain ⟨m', hm', -, hrecord⟩ := hcons.record name plugin hplugin
  have hsame : m' = m := by
    unfold described at hm
    rw [hfresh hplugin, hm'] at hm
    exact Except.ok.inj hm
  subst hsame
  have hlisted : p.listedStatus name = "active" := by
    simp [listedStatus, pluginList, get?_mapValues, hrecord]
    rfl
  refine ⟨plugin, m', hplugin, hm', hstatus, hlisted, ?_⟩
  rw [hstatus, hlisted]
  cases m'.status <;> decide

def bare : Quality.Assistant := { desk := { manager := { now := .zero } } }

/-- A platform on which the plugin for data quality was registered. -/
def furnished : Platform := ((register Quality.Assistant.plugin []).perform { assistant := bare }).2

/-- The list has the plugin for data quality as active, the page on it has not. -/
theorem furnished_status : ∃ info p', (pluginInfo "data_quality").perform furnished = (.ok info, p') ∧
    furnished.listedStatus "data_quality" = "active" ∧ info.textD "status" ≠ "active" := by
  have hfresh : ∀ call ∈ [Call.register Quality.Assistant.plugin []], call.Fresh := by
    simp only [List.mem_singleton, forall_eq]
    rintro s p s' ⟨⟩
    rfl
  have hrun : (Registry.run bare [.register Quality.Assistant.plugin []]).1 = furnished.registry := rfl
  have hinfo : (pluginInfo "data_quality").perform furnished = (.ok _, _) := rfl
  obtain ⟨plugin, m, hplugin, hm, -, hlisted, hiff⟩ := pluginInfo_status_iff hfresh hrun hinfo
  refine ⟨_, _, hinfo, hlisted, fun heq => ?_⟩
  cases hplugin
  cases hm
  cases hiff.mp (heq.trans hlisted.symm)

end Platform

end Workbench
