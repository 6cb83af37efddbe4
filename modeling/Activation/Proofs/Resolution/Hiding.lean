import Activation.CommandLine
import Activation.Proofs.Environment
import Activation.Proofs.Resolution.Modes

/-!
# A pass does not see what is hidden

Whatever looks at an environment looks up keys in it.  So two environments in which every key
has the same value give the same settings and the same pass with every host, and a pass in a
view with hidden keys is a pass in the environment whose sources never had them.

On the command line the key of the exclusions can be hidden in the variables of the process.
Then it does not matter which variables are bound to it and what they hold.

* `Settings.overriddenBy_of_get?_eq`, `Engine.resolve_of_get?_eq`: the settings and a pass in
  two environments that look the same.
* `CommandLine.answer_of_get?_eq`: the answer of the command line to two processes for which
  the environments look the same.
* `Environment.hidden_as_absent`: hidden keys and keys that are not there.
-/

namespace Activation

/-! ## Environments that look the same -/

/-- The settings in two environments that look the same. -/
theorem Settings.overriddenBy_of_get?_eq {first second : Environment}
    (h : ∀ key, first.get? key = second.get? key) (settings : Settings) :
    settings.overriddenBy first = settings.overriddenBy second := by
  simp only [overriddenBy, Environment.flag?, h]

/-- **A pass in two environments that look the same** finds out the same. -/
theorem Engine.resolve_of_get?_eq {σ : Type} (engine : Engine) (host : Host σ) (request : Request)
    (state : σ) {env : Environment} (h : ∀ key, env.get? key = request.env.get? key) :
    engine.resolve host { request with env } state = engine.resolve host request state := by
  refine resolve_congr engine host request state engine.machine ?_ ?_ fun units _ => ?_
  · rw [settingsIn, Settings.overriddenBy_of_get?_eq h]
  · rw [Request.exclusions, Exclusion.collect, Exclusion.collect, Environment.items,
      Environment.items, h]
  · exact Decision.forEach_congr host engine.oracle (fun _ _ _ _ _ _ key _ => h key) state

/-! ## The command line -/

namespace CommandLine

/-- **The answers for two processes** are the same if the environments look the same. -/
theorem answer_of_get?_eq {process process' : List (String × String)} {options : Options}
    (h : ∀ manifest key, (environment manifest process options).get? key =
      (environment manifest process' options).get? key)
    (manifestAt : String → Option Manifest) (path : String) :
    answer manifestAt process (.resolve path options) =
      answer manifestAt process' (.resolve path options) := by
  have hresolve (manifest : Manifest) :
      resolve manifest process options = resolve manifest process' options := by
    have hcandidates : candidates manifest (environment manifest process options) =
        candidates manifest (environment manifest process' options) := by
      rw [candidates, candidates, Settings.overriddenBy_of_get?_eq (h manifest)]
    rw [resolve, resolve, hcandidates]
    exact congrArg Prod.fst (Engine.resolve_of_get?_eq manifest.engine .silent
      { candidates := candidates manifest (environment manifest process' options)
        excludeNames := options.exclude
        env := environment manifest process' options } manifest.registry (h manifest))
  rw [answer, answer]
  simp only [hresolve]

/-- With the exclusions set through variables ignored, the environment looks the same for
processes that differ in the variables bound to them only. -/
theorem get?_environment_of_ignoreVariables {process process' : List (String × String)}
    {options : Options} (hignore : options.ignoreVariables = true)
    (h : process.filter (fun v => !PropertySource.bindsTo [Exclusion.property] v) =
      process'.filter (fun v => !PropertySource.bindsTo [Exclusion.property] v))
    (manifest : Manifest) (key : String) :
    (environment manifest process options).get? key =
      (environment manifest process' options).get? key := by
  have hforget : (PropertySource.ofVariables process).forget [Exclusion.property] =
      (PropertySource.ofVariables process').forget [Exclusion.property] := by
    rw [PropertySource.forget_ofVariables, PropertySource.forget_ofVariables, h]
  have hname (process : List (String × String)) :
      (PropertySource.ofVariables process).name = PropertySource.systemEnvironment := rfl
  rw [environment, environment, if_pos hignore, if_pos hignore, ← Environment.get?_without,
    ← Environment.get?_without]
  congr 1
  simp only [Environment.without, List.map_append, List.map_cons, hname, if_true, hforget]

end CommandLine

namespace Environment

/-- **Keys that are hidden could as well not be there.**  In a view with keys of the sources of
a name hidden, such a key has the first value that a source of another name shows, and every
other key has the value it has; two such views of any sources may be nested in either order,
and for one name they hide the keys of both.  So the settings in the view, and what a pass with
any host finds out in it and the state in which it leaves the host, are those in the environment
in which the sources of the name never had the keys.  And if the command line is to ignore the
exclusions set through variables, its answer does not depend on the variables bound to the key
of the exclusions. -/
theorem hidden_as_absent :
    (∀ (env : Environment) (name : String) (keys : List String),
      (∀ key ∈ keys, (env.withHidden name keys).get? key =
        (env.sources.filter fun source => source.name ≠ name).findSome? (·.get? key)) ∧
      (∀ key ∉ keys, (env.withHidden name keys).get? key = env.get? key) ∧
      (∀ name' keys', (env.withHidden name keys).withHidden name' keys' =
        (env.withHidden name' keys').withHidden name keys) ∧
      (∀ keys', (env.withHidden name keys).withHidden name keys' =
        env.withHidden name (keys ++ keys')) ∧
      (∀ settings : Settings, settings.overriddenBy (env.withHidden name keys) =
        settings.overriddenBy (env.without name keys)) ∧
      ∀ {σ : Type} (engine : Engine) (host : Host σ) (request : Request) (state : σ),
        engine.resolve host { request with env := env.withHidden name keys } state =
          engine.resolve host { request with env := env.without name keys } state) ∧
    ∀ (manifestAt : String → Option Manifest) (process process' : List (String × String))
      (path : String) (options : CommandLine.Options), options.ignoreVariables = true →
      process.filter (fun v => !PropertySource.bindsTo [Exclusion.property] v) =
        process'.filter (fun v => !PropertySource.bindsTo [Exclusion.property] v) →
      CommandLine.answer manifestAt process (.resolve path options) =
        CommandLine.answer manifestAt process' (.resolve path options) := by
  refine ⟨fun env name keys => ⟨fun key hkey => ?_, fun key hkey => ?_, ?_, ?_, ?_, ?_⟩, ?_⟩
  · rw [get?_withHidden, if_pos hkey, getElsewhere?]
  · rw [get?_withHidden, if_neg hkey]
  · exact env.withHidden_comm name keys
  · exact env.withHidden_withHidden name keys
  · exact Settings.overriddenBy_of_get?_eq fun key => (env.get?_without name keys key).symm
  · intro σ engine host request state
    exact engine.resolve_of_get?_eq host { request with env := env.without name keys } state
      fun key => (env.get?_without name keys key).symm
  · intro manifestAt process process' path options hignore h
    exact CommandLine.answer_of_get?_eq
      (CommandLine.get?_environment_of_ignoreVariables hignore h) manifestAt path

/-- A variable is bound to the key of the exclusions in large and in small letters. -/
theorem boundKey_spellings :
    PropertySource.boundKey "AUTOCONFIGURE_EXCLUDE" = "autoconfigure.exclude" ∧
    PropertySource.boundKey "AUTOCONFIGURE_exclude" = "autoconfigure.exclude" ∧
    PropertySource.boundKey "AUTOCONFIGURE_ENABLED" = "autoconfigure.enabled" := by
  refine ⟨?_, ?_, ?_⟩
  · decide
  · decide
  · decide

/-- Two sources have one name, and a third one stands between them. -/
def layeredEnvironment : Environment where
  sources := [.ofPairs "process" [("theme", "dark")], .ofPairs "file" [("theme", "light")],
    .ofPairs "process" [("theme", "grey"), ("size", "4")]]

/-- Two units without definitions. -/
def bareManifest : Manifest where
  offers := .ofList [("auto-configuration", ["shop", "store"])]

/-- The theme of one source is hidden in two, and exclusions set through variables that are
spelled in different ways are ignored. -/
theorem hidden_as_absent_theme :
    (layeredEnvironment.withHidden "process" ["theme"]).get? "theme" = some "light" ∧
    (layeredEnvironment.withHidden "process" ["theme"]).get? "size" = some "4" ∧
    CommandLine.answer (fun _ => some bareManifest)
        [("AUTOCONFIGURE_EXCLUDE", "shop"), ("AUTOCONFIGURE_ENABLED", "true")]
        (.resolve "site.toml" { ignoreVariables := true }) =
      CommandLine.answer (fun _ => some bareManifest)
        [("AUTOCONFIGURE_ENABLED", "true"), ("AUTOCONFIGURE_exclude", "store")]
        (.resolve "site.toml" { ignoreVariables := true }) := by
  obtain ⟨hview, hprocess⟩ := hidden_as_absent
  obtain ⟨hhidden, hshown, -⟩ := hview layeredEnvironment "process" ["theme"]
  refine ⟨(hhidden "theme" (by decide)).trans ?_, (hshown "size" (by decide)).trans ?_, ?_⟩
  · decide
  · decide
  · obtain ⟨hupper, hlower, hother⟩ := boundKey_spellings
    refine hprocess _ _ _ _ _ rfl ?_
    simp only [PropertySource.bindsTo, List.filter_cons, List.filter_nil, hupper, hlower, hother]
    decide

end Environment
end Activation
