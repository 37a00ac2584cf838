import ModelTables.Command.Generate
import ModelTables.Proofs.Run
import ModelTables.Proofs.Rounds
import ModelTables.Proofs.Bindings
import Mathlib.Data.List.Induction
import Mathlib.Data.List.Nodup

/-! # The files a generate run writes

Main statement, `generate_writes_one_module_per_app`: a generate run that finishes
wrote the modules of the models the session rendered from the manifest, one module
per app that has a rendered model, apps in the order of their first rendered model,
each module holding its app's models in rendered order.  When no app label holds a
slash, each module is the file `<app>.ts` directly inside the output directory and
no other file of the work directory changes.

The ingredients:
* paths: the segments of a joined path (`segments_child`), read off the parts of a
  path between its slashes (`parts_append_slash`, `parts_pathOf`);
* files: writing a file changes only the file at its segments (`fileAt_write`), and
  a sequence of writes to distinct paths leaves each content where it was written
  (`fileAt_writeAll`);
* grouping: the apps of the rendered models are their labels without repeats, in
  order of first appearance (`appsInOrder_eq_eraseDups`), and grouping by them
  keeps every model exactly once (`flatMap_filter_perm`).
-/

namespace ModelTables

namespace WorkDir

/-- A segment a path keeps as it is: not empty, not `.` or `..`, and without a slash. -/
def Plain (part : String) : Prop :=
  part ≠ "" ∧ part ≠ "." ∧ part ≠ ".." ∧ '/' ∉ part.toList

/-! ## Segments of a path -/

theorem pushPart_plain {part : String} (plain : Plain part) (acc : List String) :
    pushPart acc part = acc ++ [part] := by
  obtain ⟨nonempty, notDot, notDots, -⟩ := plain
  simp [pushPart, String.isEmpty_iff, nonempty, notDot, notDots]

theorem foldl_pushPart_plain {ps : List String} (plain : ∀ p ∈ ps, Plain p) (acc : List String) :
    ps.foldl pushPart acc = acc ++ ps := by
  induction ps generalizing acc with
  | nil => simp
  | cons p rest ih =>
    rw [List.foldl_cons, pushPart_plain (plain p List.mem_cons_self),
      ih (fun q member => plain q (List.mem_cons_of_mem _ member))]
    simp

/-- A segment of a resolved path was there before or is a part of the path that is
neither empty nor `.` or `..`. -/
theorem mem_foldl_pushPart {s : String} {ps acc : List String} (member : s ∈ ps.foldl pushPart acc) :
    s ∈ acc ∨ s ∈ ps ∧ s ≠ "" ∧ s ≠ "." ∧ s ≠ ".." := by
  induction ps generalizing acc with
  | nil => exact .inl member
  | cons p rest ih =>
    rw [List.foldl_cons] at member
    rcases ih member with before | later
    · by_cases skipped : (p.isEmpty || p == ".") = true
      · simp only [pushPart, skipped, if_true] at before
        exact .inl before
      · by_cases back : (p == "..") = true
        · simp only [pushPart, skipped, back, if_true, Bool.false_eq_true, if_false] at before
          exact .inl (List.dropLast_subset _ before)
        · simp only [pushPart, skipped, back, Bool.false_eq_true, if_false] at before
          rcases List.mem_append.mp before with old | new
          · exact .inl old
          · rw [List.mem_singleton] at new
            subst new
            simp only [Bool.or_eq_true, beq_iff_eq, String.isEmpty_iff, not_or] at skipped back
            exact .inr ⟨List.mem_cons_self, skipped.1, skipped.2, back⟩
    · exact .inr ⟨List.mem_cons_of_mem _ later.1, later.2⟩

theorem not_slash_of_mem_splitOn : ∀ {cs part : List Char}, part ∈ cs.splitOn '/' → '/' ∉ part
  | [], part, member => by
    simp only [List.splitOn_nil, List.mem_singleton] at member
    simp [member]
  | c :: rest, part, member => by
    rw [List.splitOn_cons_eq_if_modifyHead] at member
    by_cases slash : c = '/'
    · simp only [slash, BEq.rfl, if_true, List.mem_cons] at member
      rcases member with rfl | later
      · simp
      · exact not_slash_of_mem_splitOn later
    · simp only [beq_iff_eq, slash, if_false] at member
      obtain ⟨head, tail, split⟩ := List.exists_cons_of_ne_nil (List.splitOn_ne_nil '/' rest)
      rw [split, List.modifyHead_cons] at member
      rcases List.mem_cons.mp member with rfl | later
      · have headClear := not_slash_of_mem_splitOn (split ▸ List.mem_cons_self : head ∈ rest.splitOn '/')
        simp only [List.mem_cons, not_or]
        exact ⟨Ne.symm slash, headClear⟩
      · exact not_slash_of_mem_splitOn (split ▸ List.mem_cons_of_mem _ later : part ∈ rest.splitOn '/')

theorem not_slash_of_mem_parts {path part : String} (member : part ∈ parts path) : '/' ∉ part.toList := by
  obtain ⟨chars, within, rfl⟩ := List.mem_map.mp member
  simpa using not_slash_of_mem_splitOn within

/-- Every segment of a resolved path is plain. -/
theorem segments_plain (path : String) : ∀ s ∈ segments path, Plain s := by
  intro s member
  rcases mem_foldl_pushPart member with before | ⟨part, nonempty, notDot, notDots⟩
  · simp at before
  · exact ⟨nonempty, notDot, notDots, not_slash_of_mem_parts part⟩

theorem parts_append_slash (a b : String) : parts (a ++ "/" ++ b) = parts a ++ parts b := by
  have slash : "/".toList = ['/'] := rfl
  simp only [parts, String.toList_append, slash, List.append_assoc, List.singleton_append,
    List.splitOn_append_cons_self, List.map_append]

theorem parts_of_no_slash {s : String} (noSlash : '/' ∉ s.toList) : parts s = [s] := by
  simp [parts, List.splitOn_eq_singleton noSlash]

/-- Joining segments without slashes and splitting again gives them back. -/
theorem parts_pathOf {ps : List String} (nonempty : ps ≠ []) (noSlash : ∀ p ∈ ps, '/' ∉ p.toList) :
    parts (pathOf ps) = ps := by
  have split : (pathOf ps).toList.splitOn '/' = ps.map String.toList := by
    simp only [pathOf, String.toList_intercalate]
    exact List.splitOn_intercalate '/' (by simpa using noSlash) (by simpa using nonempty)
  simp [parts, split, List.map_map, Function.comp_def]

theorem segments_pathOf {ps : List String} (plain : ∀ p ∈ ps, Plain p) : segments (pathOf ps) = ps := by
  cases ps with
  | nil => rfl
  | cons p rest =>
    rw [segments, parts_pathOf (List.cons_ne_nil p rest) fun q member => (plain q member).2.2.2,
      foldl_pushPart_plain plain, List.nil_append]

/-- A plain name joined to a directory's path names the file of that name directly
inside the directory. -/
theorem segments_child {out : List String} {name : String} (plainOut : ∀ s ∈ out, Plain s)
    (plainName : Plain name) : segments (pathOf out ++ "/" ++ name) = out ++ [name] := by
  rw [segments, parts_append_slash, List.foldl_append, parts_of_no_slash plainName.2.2.2, ← segments,
    segments_pathOf plainOut, List.foldl_cons, List.foldl_nil, pushPart_plain plainName]

/-! ## Files of a work directory -/

/-- Writing a file at plain segments changes the file at those segments and no other. -/
theorem fileAt_write {path : List String} (plain : ∀ s ∈ path, Plain s) (dir : WorkDir)
    (content : String) (target : List String) :
    (dir.write path content).fileAt target =
      if target = path then some content else dir.fileAt target := by
  have written := segments_pathOf plain
  by_cases same : target = path
  · subst same
    have gone : dir.find? (fun _ => false) = none := List.find?_eq_none.mpr (by simp)
    simp [fileAt, write, written, gone]
  · -- the files the write removes are not at the target
    have kept : (fun file : String × String => !decide (segments file.1 = path) &&
        decide (segments file.1 = target)) = fun file => segments file.1 == target := by
      funext file
      by_cases hit : segments file.1 = target
      · simp [hit, same]
      · simp [hit]
    simp [fileAt, write, written, Ne.symm same, same, kept]

/-- Writes at paths other than the target leave the file there as it was. -/
theorem fileAt_foldl_write_other {ι : Type} (path : ι → List String) (content : ι → String)
    {target : List String} :
    ∀ {items : List ι} (dir : WorkDir), (∀ i ∈ items, ∀ s ∈ path i, Plain s) →
      (∀ i ∈ items, path i ≠ target) →
      (items.foldl (fun d i => d.write (path i) (content i)) dir).fileAt target = dir.fileAt target
  | [], _, _, _ => rfl
  | i :: rest, dir, plain, other => by
    rw [List.foldl_cons, fileAt_foldl_write_other path content _
      (fun j member => plain j (List.mem_cons_of_mem _ member))
      (fun j member => other j (List.mem_cons_of_mem _ member)),
      fileAt_write (plain i List.mem_cons_self), if_neg (Ne.symm (other i List.mem_cons_self))]

/-- Writes to distinct paths leave each content at its path. -/
theorem fileAt_foldl_write_mem {ι : Type} (path : ι → List String) (content : ι → String) :
    ∀ {items : List ι} (dir : WorkDir), (∀ i ∈ items, ∀ s ∈ path i, Plain s) →
      (items.map path).Nodup → ∀ i ∈ items,
      (items.foldl (fun d i => d.write (path i) (content i)) dir).fileAt (path i) = some (content i)
  | [], _, _, _, _, member => absurd member List.not_mem_nil
  | j :: rest, dir, plain, distinct, i, member => by
    have restPlain : ∀ k ∈ rest, ∀ s ∈ path k, Plain s := fun k within => plain k (List.mem_cons_of_mem _ within)
    have distinct' : (path j :: rest.map path).Nodup := distinct
    obtain ⟨fresh, restDistinct⟩ := List.nodup_cons.mp distinct'
    rw [List.foldl_cons]
    rcases List.mem_cons.mp member with rfl | later
    · -- the later writes are elsewhere
      have elsewhere : ∀ k ∈ rest, path k ≠ path i := fun k within same =>
        fresh (by rw [← same]; exact List.mem_map_of_mem within)
      rw [fileAt_foldl_write_other path content _ restPlain elsewhere,
        fileAt_write (plain i List.mem_cons_self), if_pos rfl]
    · exact fileAt_foldl_write_mem path content _ restPlain restDistinct i later

end WorkDir

/-! ## Writing the modules -/

private theorem foldl_write_pair {α β γ : Type} (f : α → γ → α) (g : γ → β) :
    ∀ (items : List γ) (a : α) (bs : List β),
      items.foldl (fun acc x => (f acc.1 x, acc.2 ++ [g x])) (a, bs) = (items.foldl f a, bs ++ items.map g)
  | [], _, _ => by simp
  | x :: rest, a, bs => by
    rw [List.foldl_cons, List.foldl_cons, foldl_write_pair f g rest]
    simp

/-- Modules with plain file names, written into a directory at plain segments, are
each written at the directory's segments and the file name, in order, and the
written paths are reported in that order. -/
theorem writeModules_eq_ok {root : String} {dir dir' : WorkDir} {out : List String}
    {modules : List GeneratedModule} {files : List String}
    (plainOut : ∀ s ∈ out, WorkDir.Plain s) (plainNames : ∀ m ∈ modules, WorkDir.Plain m.fileName)
    (wrote : writeModules root dir out modules = .ok (dir', files)) :
    dir' = modules.foldl (fun d m => d.write (out ++ [m.fileName]) m.content) dir ∧
      files = modules.map fun m => underRoot root (out ++ [m.fileName]) := by
  unfold writeModules at wrote
  by_cases allowed : dir.canMakeDirectory out = true
  · simp only [allowed, Bool.not_true, Bool.false_eq_true, if_false] at wrote
    refine (fun folded => ?_) (foldlM_eq_ok_foldl
      (fun acc m => (acc.1.write (out ++ [m.fileName]) m.content,
        acc.2 ++ [underRoot root (out ++ [m.fileName])])) ?each wrote)
    · have split := folded.trans (foldl_write_pair (fun d m => d.write (out ++ [m.fileName]) m.content)
        (fun m => underRoot root (out ++ [m.fileName])) modules dir [])
      simpa using split
    · intro acc m next member stepped
      rw [WorkDir.segments_child plainOut (plainNames m member)] at stepped
      split at stepped
      · cases stepped
      · cases stepped
        rfl
  · simp [allowed] at wrote
    cases wrote

/-! ## The modules of the rendered models -/

/-- Grouping a list by a key, over keys without repeats that cover every element's
key, keeps every element exactly once. -/
theorem flatMap_filter_perm {α κ : Type} [BEq κ] [LawfulBEq κ] (key : α → κ) :
    ∀ {keys : List κ} (items : List α), keys.Nodup → (∀ x ∈ items, key x ∈ keys) →
      (keys.flatMap fun k => items.filter (key · == k)).Perm items
  | [], items, _, cover => by
    cases items with
    | nil => exact List.Perm.refl _
    | cons x _ => exact absurd (cover x List.mem_cons_self) List.not_mem_nil
  | k :: ks, items, distinct, cover => by
    obtain ⟨fresh, distinctRest⟩ := List.nodup_cons.mp distinct
    -- the later groups see only the items whose key is not `k`
    have later : (ks.flatMap fun k' => items.filter (key · == k')) =
        ks.flatMap fun k' => (items.filter fun x => !(key x == k)).filter (key · == k') := by
      refine List.flatMap_congr fun k' member => ?_
      rw [List.filter_filter]
      refine List.filter_congr fun x _ => ?_
      by_cases hit : key x = k'
      · have other : k' ≠ k := fun same => fresh (same ▸ member)
        simp [hit, other]
      · simp [hit]
    have rest := flatMap_filter_perm key (items.filter fun x => !(key x == k)) distinctRest (by
      intro x member
      obtain ⟨within, other⟩ := List.mem_filter.mp member
      rcases List.mem_cons.mp (cover x within) with same | elsewhere
      · simp [same] at other
      · exact elsewhere)
    rw [List.flatMap_cons, later]
    exact (List.Perm.append_left _ rest).trans (List.filter_append_perm _ items)

namespace Session

/-- The apps of the rendered models are their labels without repeats, in order of
first appearance. -/
theorem appsInOrder_eq_eraseDups (models : List Code.ModelSource) :
    appsInOrder models = (models.map (·.appLabel)).eraseDups := by
  induction models using List.reverseRecOn with
  | nil => rfl
  | append_singleton models m ih =>
    simp only [appsInOrder, List.foldl_append, List.foldl_cons, List.foldl_nil] at ih ⊢
    rw [ih, List.map_append, List.eraseDups_append]
    by_cases seen : ∃ a ∈ models, a.appLabel = m.appLabel
    · simp [seen, List.removeAll]
    · simp [seen, List.removeAll, List.eraseDups_cons]

theorem appsInOrder_nodup (models : List Code.ModelSource) : (appsInOrder models).Nodup := by
  induction models using List.reverseRecOn with
  | nil => exact List.nodup_nil
  | append_singleton models m ih =>
    simp only [appsInOrder, List.foldl_append, List.foldl_cons, List.foldl_nil] at ih ⊢
    split
    · exact ih
    · rename_i fresh
      refine List.nodup_append.mpr ⟨ih, by simp, fun a member b single same => ?_⟩
      rw [List.mem_singleton] at single
      exact fresh (by simpa [← single, ← same] using member)

/-- The class names the modules list, module by module. -/
theorem modulesOf_models (models : List Code.ModelSource) :
    (modulesOf models).flatMap (·.models) =
      (appsInOrder models).flatMap fun app => (models.filter (·.appLabel == app)).map (·.className) := by
  simp [modulesOf, List.flatMap_map]

/-- Every rendered model is in exactly one module. -/
theorem modulesOf_models_perm (models : List Code.ModelSource) :
    ((modulesOf models).flatMap (·.models)).Perm (models.map (·.className)) := by
  have grouped := flatMap_filter_perm (·.appLabel) models (appsInOrder_nodup models) fun x member => by
    simpa [appsInOrder_eq_eraseDups] using ⟨x, member, rfl⟩
  rw [modulesOf_models, ← List.map_flatMap]
  exact grouped.map _

theorem plain_ts {app : String} (noSlash : '/' ∉ app.toList) : WorkDir.Plain (app ++ ".ts") := by
  have chars : (app ++ ".ts").toList = app.toList ++ ['.', 't', 's'] := by
    simp only [String.toList_append]
    rfl
  have long : ∀ s : String, app ++ ".ts" = s → 3 ≤ s.toList.length := by
    intro s same
    simp [← same, chars]
  refine ⟨fun same => ?_, fun same => ?_, fun same => ?_, ?_⟩
  · simpa using long _ same
  · simpa using long _ same
  · simpa using long _ same
  · simp [chars, noSlash]

theorem mem_appsInOrder {models : List Code.ModelSource} {app : String} :
    app ∈ appsInOrder models ↔ ∃ m ∈ models, m.appLabel = app := by
  simp [appsInOrder_eq_eraseDups]

end Session

/-! ## A generate run -/

/-- What a generate run prepares: the configuration it runs with, and the modules of
the schema its manifest builds, generated by the session of that configuration. -/
theorem prepareGenerate_eq_ok {dir : WorkDir} {o : GenerateOptions} {config : Config}
    {source : GeneratedSource} {log after : List LogEntry}
    (prepared : (prepareGenerate dir o).run.run log = (.ok (config, source), after)) :
    ∃ manifest schema session middle, Manifest.load dir o.schema = .ok manifest ∧
      Schema.build manifest = .ok schema ∧ Session.ofConfig config = .ok session ∧
      (session.generateModules schema o.apps).run.run middle = (.ok source, after) := by
  unfold prepareGenerate at prepared
  dsimp only at prepared
  -- the configuration file is read or skipped; what follows is the same either way
  repeat' split at prepared
  all_goals
    obtain ⟨_, _, -, prepared⟩ := Run.run_bind_eq_ok prepared
    obtain ⟨_, _, -, prepared⟩ := Run.run_bind_eq_ok prepared
    obtain ⟨manifest, _, loaded, prepared⟩ := Run.run_bind_eq_ok prepared
    obtain ⟨schema, _, built, prepared⟩ := Run.run_bind_eq_ok prepared
    obtain ⟨session, middle, opened, prepared⟩ := Run.run_bind_eq_ok prepared
    obtain ⟨_, _, generated, prepared⟩ := Run.run_bind_eq_ok prepared
    rw [Run.run_pure] at prepared
    cases prepared
    exact ⟨manifest, schema, session, middle, (Run.lift_eq_ok loaded).1, (Run.lift_eq_ok built).1,
      (Run.lift_eq_ok opened).1, generated⟩

/-- A generate run that finishes prepared its modules and wrote them into the
output directory; its summary is theirs. -/
theorem runGenerate_eq_ok {root : String} {dir dir' : WorkDir} {o : GenerateOptions}
    {summary : GenerateSummary} {log : List LogEntry}
    (ran : (runGenerate root dir o).exec = (.ok (summary, dir'), log)) :
    ∃ config source files, (prepareGenerate dir o).run.run [] = (.ok (config, source), log) ∧
      writeModules root dir (WorkDir.segments o.outputDir) source.modules = .ok (dir', files) ∧
      summary = source.summary files := by
  unfold runGenerate Run.exec at ran
  obtain ⟨⟨config, source⟩, middle, prepared, rest⟩ := Run.run_bind_eq_ok ran
  dsimp only at rest
  obtain ⟨⟨written, files⟩, after, lifted, finished⟩ := Run.run_bind_eq_ok rest
  obtain ⟨wrote, rfl⟩ := Run.lift_eq_ok lifted
  rw [Run.run_pure] at finished
  cases finished
  exact ⟨config, source, files, prepared, wrote, rfl⟩

/-- The files writing the modules of `models` into `out` leaves: each app's module
is the file `<app>.ts` directly inside `out`, the files are listed app by app in
order of first appearance, and no other file of the work directory changes. -/
structure ModuleFiles (root : String) (dir : WorkDir) (out : List String)
    (models : List Code.ModelSource) (files : List String) (dir' : WorkDir) : Prop where
  listed : files = (models.map (·.appLabel)).eraseDups.map fun app => underRoot root (out ++ [app ++ ".ts"])
  written : ∀ m ∈ models, dir'.fileAt (out ++ [m.appLabel ++ ".ts"]) =
    some (Code.renderAppModule (models.filter (·.appLabel == m.appLabel)))
  unchanged : ∀ path, (∀ m ∈ models, path ≠ out ++ [m.appLabel ++ ".ts"]) →
    dir'.fileAt path = dir.fileAt path

/-- What a generate run that wrote the modules of the rendered `models` reports and
leaves: the class names app by app, apps in order of first appearance, each model
once; the models left out; and, when no app label holds a slash, the module files. -/
structure WroteModules (root : String) (dir : WorkDir) (out : List String)
    (models : List Code.ModelSource) (skipped : List Skipped) (summary : GenerateSummary)
    (dir' : WorkDir) : Prop where
  grouped : summary.models = (models.map (·.appLabel)).eraseDups.flatMap fun app =>
    (models.filter (·.appLabel == app)).map (·.className)
  each_once : summary.models.Perm (models.map (·.className))
  left_out : summary.skipped = skipped
  files : (∀ m ∈ models, '/' ∉ m.appLabel.toList) → ModuleFiles root dir out models summary.files dir'

/-- The modules of models whose app labels hold no slash, written into a directory
at plain segments, are the files `<app>.ts` directly inside it. -/
theorem writeModules_modulesOf {root : String} {dir dir' : WorkDir} {out : List String}
    {models : List Code.ModelSource} {files : List String} (plainOut : ∀ s ∈ out, WorkDir.Plain s)
    (noSlash : ∀ m ∈ models, '/' ∉ m.appLabel.toList)
    (wrote : writeModules root dir out (Session.modulesOf models) = .ok (dir', files)) :
    ModuleFiles root dir out models files dir' := by
  -- every module is the one of an app of the models
  have ofApp : ∀ mod ∈ Session.modulesOf models, ∃ m ∈ models, mod.fileName = m.appLabel ++ ".ts" := by
    intro mod member
    obtain ⟨app, listed, rfl⟩ := List.mem_map.mp member
    obtain ⟨m, within, rfl⟩ := Session.mem_appsInOrder.mp listed
    exact ⟨m, within, rfl⟩
  have plainNames : ∀ mod ∈ Session.modulesOf models, WorkDir.Plain mod.fileName := by
    intro mod member
    obtain ⟨m, within, named⟩ := ofApp mod member
    exact named ▸ Session.plain_ts (noSlash m within)
  obtain ⟨rfl, rfl⟩ := writeModules_eq_ok plainOut plainNames wrote
  have plainPaths : ∀ mod ∈ Session.modulesOf models, ∀ s ∈ out ++ [mod.fileName], WorkDir.Plain s := by
    intro mod member s within
    rcases List.mem_append.mp within with inOut | named
    · exact plainOut s inOut
    · exact List.mem_singleton.mp named ▸ plainNames mod member
  refine ⟨?_, fun m member => ?_, fun path other => ?_⟩
  · simp [Session.modulesOf, Session.appsInOrder_eq_eraseDups]
  · -- the module of `m`'s app is written once, at its own path
    have injective : Function.Injective fun app : String => out ++ [app ++ ".ts"] := by
      intro a b same
      simpa using same
    have distinct : ((Session.modulesOf models).map fun mod => out ++ [mod.fileName]).Nodup := by
      simpa [Session.modulesOf, List.map_map, Function.comp_def] using
        (Session.appsInOrder_nodup models).map injective
    have listed : m.appLabel ∈ Session.appsInOrder models := Session.mem_appsInOrder.mpr ⟨m, member, rfl⟩
    exact WorkDir.fileAt_foldl_write_mem (fun mod : GeneratedModule => out ++ [mod.fileName])
      (fun mod : GeneratedModule => mod.content) dir plainPaths distinct _ (List.mem_map_of_mem listed)
  · refine WorkDir.fileAt_foldl_write_other (fun mod : GeneratedModule => out ++ [mod.fileName])
      (fun mod : GeneratedModule => mod.content) dir plainPaths fun mod member => ?_
    obtain ⟨m, within, named⟩ := ofApp mod member
    rw [named]
    exact Ne.symm (other m within)

/-- A generate run that finishes wrote the modules of the models the session
rendered from the manifest: one module per app that has a rendered model, apps in
the order of their first rendered model, each module holding its app's models in
rendered order, so that every rendered model is in exactly one module.  The summary
lists their class names module by module, then the planning skips and the rendering
failures, and the written files in module order.  When no app label holds a slash,
each module is the file `<app>.ts` directly inside the output directory, and no
other file of the work directory changes. -/
theorem generate_writes_one_module_per_app {root : String} {dir dir' : WorkDir}
    {o : GenerateOptions} {summary : GenerateSummary} {log : List LogEntry}
    (ran : (runGenerate root dir o).exec = (.ok (summary, dir'), log)) :
    ∃ (manifest : Manifest) (schema : Schema) (config : Config) (session : Session) (plan : Plan)
      (text : Outcome Code.ModelSource),
      Manifest.load dir o.schema = .ok manifest ∧ Schema.build manifest = .ok schema ∧
      Session.ofConfig config = .ok session ∧ session.plan schema o.apps = .ok plan ∧
      text.Settles plan (Code.renderModel schema session.config.appName) ∧
      WroteModules root dir (WorkDir.segments o.outputDir) (text.rendered.map (·.2))
        (plan.skipped ++ text.failed) summary dir' := by
  obtain ⟨config, source, files, prepared, wrote, rfl⟩ := runGenerate_eq_ok ran
  obtain ⟨manifest, schema, session, middle, loaded, built, opened, generated⟩ :=
    prepareGenerate_eq_ok prepared
  obtain ⟨plan, text, planned, settles, rfl⟩ := Session.generateModules_source generated
  refine ⟨manifest, schema, config, session, plan, text, loaded, built, opened, planned, settles,
    ⟨?_, Session.modulesOf_models_perm _, rfl,
      fun noSlash => writeModules_modulesOf (WorkDir.segments_plain _) noSlash wrote⟩⟩
  simp [GeneratedSource.summary, Session.modulesOf_models, Session.appsInOrder_eq_eraseDups]

/-- Three models of two apps, the second app's model between the first app's two:
the run finishes, and its files are as the theorem says. -/
theorem generate_writes_two_modules :
    ∃ summary dir' log, (runGenerate "/w" [("s.json", "\x7b\"models\": [\x7b\"app\": \"a\", \"name\": \"M\", \"fields\": [\x7b\"name\": \"v\", \"kind\": \"IntegerField\"\x7d]\x7d, \x7b\"app\": \"b\", \"name\": \"N\", \"fields\": [\x7b\"name\": \"w\", \"kind\": \"IntegerField\"\x7d]\x7d, \x7b\"app\": \"a\", \"name\": \"K\", \"fields\": [\x7b\"name\": \"u\", \"kind\": \"IntegerField\"\x7d]\x7d]\x7d")]
        { schema := "s.json" }).exec = (.ok (summary, dir'), log) ∧
      ∃ (manifest : Manifest) (schema : Schema) (config : Config) (session : Session) (plan : Plan)
        (text : Outcome Code.ModelSource),
        Manifest.load [("s.json", "\x7b\"models\": [\x7b\"app\": \"a\", \"name\": \"M\", \"fields\": [\x7b\"name\": \"v\", \"kind\": \"IntegerField\"\x7d]\x7d, \x7b\"app\": \"b\", \"name\": \"N\", \"fields\": [\x7b\"name\": \"w\", \"kind\": \"IntegerField\"\x7d]\x7d, \x7b\"app\": \"a\", \"name\": \"K\", \"fields\": [\x7b\"name\": \"u\", \"kind\": \"IntegerField\"\x7d]\x7d]\x7d")] "s.json" = .ok manifest ∧
        Schema.build manifest = .ok schema ∧ Session.ofConfig config = .ok session ∧
        session.plan schema .all = .ok plan ∧ text.Settles plan (Code.renderModel schema session.config.appName) ∧
        WroteModules "/w" [("s.json", "\x7b\"models\": [\x7b\"app\": \"a\", \"name\": \"M\", \"fields\": [\x7b\"name\": \"v\", \"kind\": \"IntegerField\"\x7d]\x7d, \x7b\"app\": \"b\", \"name\": \"N\", \"fields\": [\x7b\"name\": \"w\", \"kind\": \"IntegerField\"\x7d]\x7d, \x7b\"app\": \"a\", \"name\": \"K\", \"fields\": [\x7b\"name\": \"u\", \"kind\": \"IntegerField\"\x7d]\x7d]\x7d")] (WorkDir.segments "./generated") (text.rendered.map (·.2))
          (plan.skipped ++ text.failed) summary dir' := by
  have finished : ((runGenerate "/w" [("s.json", "\x7b\"models\": [\x7b\"app\": \"a\", \"name\": \"M\", \"fields\": [\x7b\"name\": \"v\", \"kind\": \"IntegerField\"\x7d]\x7d, \x7b\"app\": \"b\", \"name\": \"N\", \"fields\": [\x7b\"name\": \"w\", \"kind\": \"IntegerField\"\x7d]\x7d, \x7b\"app\": \"a\", \"name\": \"K\", \"fields\": [\x7b\"name\": \"u\", \"kind\": \"IntegerField\"\x7d]\x7d]\x7d")]
      { schema := "s.json" }).exec.1.toOption).isSome = true := by
    decide +kernel
  rcases ran : (runGenerate "/w" [("s.json", "\x7b\"models\": [\x7b\"app\": \"a\", \"name\": \"M\", \"fields\": [\x7b\"name\": \"v\", \"kind\": \"IntegerField\"\x7d]\x7d, \x7b\"app\": \"b\", \"name\": \"N\", \"fields\": [\x7b\"name\": \"w\", \"kind\": \"IntegerField\"\x7d]\x7d, \x7b\"app\": \"a\", \"name\": \"K\", \"fields\": [\x7b\"name\": \"u\", \"kind\": \"IntegerField\"\x7d]\x7d]\x7d")] { schema := "s.json" }).exec with
    ⟨_ | ⟨summary, dir'⟩, log⟩
  · rw [ran] at finished
    cases finished
  · have described := generate_writes_one_module_per_app ran
    exact ⟨summary, dir', log, rfl, described⟩

/-- An app label that climbs out of the output directory puts its module outside it:
the module of the app `../x` is the file `x.ts` at the root of the work directory,
not a file inside `generated`. -/
theorem module_escapes_output_directory :
    WorkDir.segments ({ schema := "s.json" } : GenerateOptions).outputDir = ["generated"] ∧
      ((runGenerate "/w" [("s.json", "\x7b\"models\": [\x7b\"app\": \"../x\", \"name\": \"M\", \"fields\": [\x7b\"name\": \"v\", \"kind\": \"IntegerField\"\x7d]\x7d]\x7d")] { schema := "s.json" }).exec.1.toOption.map
        fun result => (result.1.files, (result.2.fileAt ["x.ts"]).isSome)) = some (["/w/x.ts"], true) := by
  constructor <;> decide +kernel

end ModelTables
