import DartBundle.Proofs.Compiler.Invocation
import DartBundle.Proofs.Json.Decoding
import DartBundle.Proofs.Json.Writing
import DartBundle.Proofs.Module.Contents
import DartBundle.Proofs.Staging.Area
/-!
This module contains how the compiler finds what has been staged. The package config and the URI of the
entry point are made apart from the places where sources are staged, and lead there all the same.
-/

namespace DartBundle

theorem Sha256.slash_not_mem_hex (bytes : List UInt8) : '/' ∉ Sha256.hex bytes := by
  have hdigit : ∀ n < 16, Sha256.hexDigit n ≠ '/' := by decide
  intro hmem
  obtain ⟨byte, -, hbyte⟩ := List.mem_flatMap.1 hmem
  have := byte.toNat_lt
  rcases List.mem_pair.1 hbyte with heq | heq
  · exact hdigit (byte.toNat / 16) (by omega) heq.symm
  · exact hdigit (byte.toNat % 16) (by omega) heq.symm

theorem slash_not_mem_scratchFileName {entry : AssetId} {stem extension : String}
    (hstem : '/' ∉ stem.toList) (hextension : '/' ∉ extension.toList) :
    '/' ∉ (scratchFileName entry stem extension).toList := by
  have hdigest := Sha256.slash_not_mem_hex (Sha256.digest entry.display.toUTF8.toList)
  unfold scratchFileName
  simp only [String.toList_append, String.toList_ofList, List.mem_append, not_or]
  exact ⟨⟨⟨⟨hstem, by decide⟩, fun hmem => hdigest (List.mem_of_mem_take hmem)⟩, by decide⟩, hextension⟩

namespace PackageConfig

def directories (path : String) : List (List Char) :=
  (List.splitOn '/' path.toList).dropLast.reverse

def refer : List (List Char) → List Char → List Char
  | _ :: outer, '.' :: '.' :: '/' :: rest => refer outer rest
  | directories, reference => directories.foldl (fun path directory => directory ++ '/' :: path) reference

def follow (file reference : String) : String :=
  String.ofList (refer (directories file) reference.toList)

inductive GivesRoot (root : String × String) : Json → Prop
  | intro {fields : List (Option String × Json)}
    (name : Json.valuesOf "name" fields = [.text (some root.1)])
    (uri : Json.valuesOf "rootUri" fields = [.text (some root.2)]) : GivesRoot root (.object fields)

inductive Describes (roots : List (String × String)) : Json → Prop
  | intro {fields : List (Option String × Json)} {numeral : Json.Numeral} {entries : List Json}
    (version : Json.valuesOf "configVersion" fields = [.number numeral])
    (two : numeral.value? = some (.natural 2))
    (listed : Json.valuesOf "packages" fields = [.array entries])
    (gives : List.Forall₂ GivesRoot roots entries) : Describes roots (.object fields)

variable {config : PackageConfig} {entry : AssetId} {package : String}

def roots (config : PackageConfig) : List (String × String) :=
  config.packages.map fun package => (package, rootUri package)

theorem writable_toJson (config : PackageConfig) : config.toJson.Writable := by
  have htwo : Json.Numeral.ofNat 2 = ⟨false, ['2'], none, none⟩ := rfl
  have hversion : (Json.number (.ofNat 2)).Writable := by
    rw [htwo]
    exact List.forall_mem_singleton.2
      ⟨⟨nofun, List.forall_mem_singleton.2 rfl⟩, fun _ => rfl, nofun, nofun⟩
  have hpackages : (Json.array (config.packages.map fun package =>
      .object [(some "name", .text (some package)),
        (some "rootUri", .text (some (rootUri package)))])).Writable := by
    apply Json.writable_array
    intro value hvalue
    obtain ⟨package, -, rfl⟩ := List.mem_map.1 hvalue
    apply Json.writable_object
    simp only [List.forall_mem_cons]
    exact ⟨⟨rfl, Json.writable_text package⟩, ⟨rfl, Json.writable_text (rootUri package)⟩, nofun⟩
  apply Json.writable_object
  simp only [List.forall_mem_cons]
  exact ⟨⟨rfl, hversion⟩, ⟨rfl, hpackages⟩, ⟨rfl, Json.writable_text "nodepack"⟩, nofun⟩

theorem describes_toJson (config : PackageConfig) : Describes config.roots config.toJson := by
  refine .intro rfl rfl rfl ?_
  rw [roots, List.forall₂_map_left_iff, List.forall₂_map_right_iff, List.forall₂_same]
  exact fun package _ => .intro rfl rfl

theorem read_render (config : PackageConfig) : Json.read config.render = ⟨config.toJson, true⟩ :=
  Json.read_of_spells (Json.spells_writePretty config.writable_toJson)

theorem directories_path (entry : AssetId) : directories (path entry) = [directory.toList] := by
  -- the name of a config is a digest between fixed texts, so the one slash ends its directory
  have hname : '/' ∉ (scratchFileName entry "package_config" "json").toList :=
    slash_not_mem_scratchFileName (by decide) (by decide)
  have hpath : (path entry).toList =
      directory.toList ++ '/' :: (scratchFileName entry "package_config" "json").toList := by
    simp [path]
  unfold directories
  rw [hpath, List.splitOn_append_cons_self, List.splitOn_eq_singleton (by decide), List.splitOn_eq_singleton hname]
  rfl

theorem follow_rootUri (entry : AssetId) (package : String) :
    follow (path entry) (rootUri package) = "packages/" ++ package ++ "/" := by
  have huri : (rootUri package).toList = '.' :: '.' :: '/' :: ("packages/" ++ package ++ "/").toList := by
    simp [rootUri]
  have hrest : refer [] ("packages/" ++ package ++ "/").toList = ("packages/" ++ package ++ "/").toList := by
    simp [refer]
  unfold follow
  rw [directories_path, huri, refer, hrest, String.ofList_toList]

theorem map_fst_roots (config : PackageConfig) : config.roots.map Prod.fst = config.packages := by
  unfold roots
  rw [List.map_map]
  exact List.map_id config.packages

theorem filter_roots (nodup : config.packages.Nodup) (h : package ∈ config.packages) :
    config.roots.filter (·.1 = package) = [(package, rootUri package)] := by
  have hkeys : ((fun root : String × String => decide (root.1 = package)) ∘
      fun package => (package, rootUri package)) = fun other => decide (other = package) := rfl
  unfold roots
  rw [List.filter_map, hkeys, List.filter_eq, List.count_eq_one_of_mem nodup h]
  rfl

end PackageConfig

namespace AssetId

variable {id : AssetId} {rest : String}

theorem path_eq_iff : id.path = "lib/" ++ rest ↔ belowLibraryRoot? id.path.toList = some rest.toList := by
  rw [belowLibraryRoot?_eq_some_iff, ← String.toList_inj, String.toList_append]
  rfl

theorem stagingPath_of_library (h : id.path = "lib/" ++ rest) :
    id.stagingPath = "packages/" ++ id.package ++ "/" ++ rest := by
  unfold stagingPath
  rw [path_eq_iff.1 h]
  simp

theorem belowLibraryRoot?_eq_none (h : ¬ ∃ rest, id.path = "lib/" ++ rest) :
    belowLibraryRoot? id.path.toList = none := by
  cases hbelow : belowLibraryRoot? id.path.toList with
  | none => rfl
  | some rest =>
    refine absurd ⟨String.ofList rest, path_eq_iff.2 ?_⟩ h
    rw [hbelow, String.toList_ofList]

theorem stagingPath_of_not_library (h : ¬ ∃ rest, id.path = "lib/" ++ rest) : id.stagingPath = id.path := by
  unfold stagingPath
  rw [belowLibraryRoot?_eq_none h]

theorem entryUri_of_library (scheme : String) (h : id.path = "lib/" ++ rest) :
    entryUri id scheme = "package:" ++ id.package ++ "/" ++ rest := by
  unfold entryUri
  rw [path_eq_iff.1 h]
  simp

theorem entryUri_of_not_library (scheme : String) (h : ¬ ∃ rest, id.path = "lib/" ++ rest) :
    entryUri id scheme = scheme ++ ":///" ++ id.stagingPath := by
  rw [stagingPath_of_not_library h]
  unfold entryUri
  rw [belowLibraryRoot?_eq_none h]

end AssetId

namespace StagingArea

variable {t u : FileTree} {area : StagingArea} {closure : Closure} {path : String}

theorem writePackageConfig_eq_ok_iff : area.writePackageConfig closure t = .ok path u ↔
    path = PackageConfig.path closure.entry ∧
      Disk.replaceFile (area.resolve path) (PackageConfig.ofClosure closure).render.toUTF8 t = .ok () u := by
  unfold writePackageConfig
  constructor
  · intro h
    obtain ⟨_, v, hreplace, h⟩ := Work.bind_eq_ok_iff.1 h
    cases h
    exact ⟨rfl, FileWork.ofDisk_eq_ok_iff.1 (FileWork.whileStaging_eq_ok_iff.1 hreplace)⟩
  · rintro ⟨rfl, hreplace⟩
    exact Work.bind_of_ok (FileWork.whileStaging_eq_ok_iff.2 (FileWork.ofDisk_eq_ok_iff.2 hreplace))

theorem addresses_lead_to_staged {g : ModuleGraph} {entry : AssetId}
    (h : g.closure entry = .ok (.resolved closure)) :
    entry ∈ closure.sources ∧ ∃ (text : String) (document : Json) (roots : List (String × String)),
      (∀ (area : StagingArea) (t u : FileTree) (path : String),
        area.writePackageConfig closure t = .ok path u ↔ path = PackageConfig.path entry ∧
          Disk.replaceFile (area.resolve path) text.toUTF8 t = .ok () u) ∧
      (∀ (area : StagingArea) (t u : FileTree) (path : String), t.Plain →
        area.writePackageConfig closure t = .ok path u → u.read (area.resolve path) = .ok text.toUTF8) ∧
      Json.read text = ⟨document, true⟩ ∧ PackageConfig.Describes roots document ∧
      roots.Pairwise (fun a b => Text.before a.1.toList b.1.toList = true) ∧
      (∀ package, package ∈ roots.map Prod.fst ↔
        package = entry.package ∨ ∃ source ∈ closure.sources, source.package = package) ∧
      (∀ source ∈ closure.sources, ∀ rest, source.path = "lib/" ++ rest →
        ∃ uri, roots.filter (·.1 = source.package) = [(source.package, uri)] ∧
          PackageConfig.follow (PackageConfig.path entry) uri ++ rest = source.stagingPath) ∧
      ∀ scheme, (∀ rest, entry.path = "lib/" ++ rest →
          entryUri entry scheme = "package:" ++ entry.package ++ "/" ++ rest) ∧
        ((¬ ∃ rest, entry.path = "lib/" ++ rest) →
          entryUri entry scheme = scheme ++ ":///" ++ entry.stagingPath) := by
  obtain rfl := ModuleGraph.closure_entry h
  refine ⟨ModuleGraph.entry_mem_sources h, (PackageConfig.ofClosure closure).render,
    (PackageConfig.ofClosure closure).toJson, (PackageConfig.ofClosure closure).roots,
    fun _ _ _ _ => writePackageConfig_eq_ok_iff, ?_, PackageConfig.read_render _,
    PackageConfig.describes_toJson _, ?_, ?_, ?_, ?_⟩
  · intro area t u path plain hwrite
    exact (writePackageConfig_ok plain hwrite).read
  · exact List.pairwise_map.2 closure.pairwise_packages
  · intro package
    rw [PackageConfig.map_fst_roots, PackageConfig.ofClosure, Closure.mem_packages]
  · intro source hsource rest hrest
    have hpackage : source.package ∈ closure.packages := Closure.mem_packages.2 (.inr ⟨source, hsource, rfl⟩)
    refine ⟨PackageConfig.rootUri source.package,
      PackageConfig.filter_roots closure.nodup_packages hpackage, ?_⟩
    rw [PackageConfig.follow_rootUri, AssetId.stagingPath_of_library hrest]
  · intro scheme
    exact ⟨fun _ => AssetId.entryUri_of_library scheme, AssetId.entryUri_of_not_library scheme⟩

def importing : ModuleGraph where
  modules := [
    { primarySource := ⟨"a", "web/x"⟩, dependencies := [⟨"../b\"", "lib/y"⟩] },
    { primarySource := ⟨"../b\"", "lib/y"⟩ }]
  distinct := by decide

theorem addresses_lead_to_imported :
    ∃ closure, importing.closure ⟨"a", "web/x"⟩ = .ok (.resolved closure) ∧
      (∃ uri, PackageConfig.follow (PackageConfig.path ⟨"a", "web/x"⟩) uri ++ "y" = "packages/../b\"/y") ∧
        entryUri ⟨"a", "web/x"⟩ "s" = "s:///web/x" := by
  have hclosure : importing.closure ⟨"a", "web/x"⟩ =
      .ok (.resolved ⟨⟨"a", "web/x"⟩, importing.modules.reverse⟩) :=
    eq_ok_of_toOption (by decide +kernel)
  obtain ⟨-, text, document, roots, -, -, -, -, -, -, hlibraries, huri⟩ :=
    addresses_lead_to_staged hclosure
  have hsource : (⟨"../b\"", "lib/y"⟩ : AssetId) ∈
      Closure.sources ⟨⟨"a", "web/x"⟩, importing.modules.reverse⟩ := by decide +kernel
  obtain ⟨uri, -, hfollow⟩ := hlibraries _ hsource "y" rfl
  have hpage : ¬ ∃ rest, "web/x" = "lib/" ++ rest := by
    rintro ⟨rest, h⟩
    simp [← String.toList_inj] at h
  exact ⟨_, hclosure, ⟨uri, hfollow⟩, (huri "s").2 hpage⟩

end StagingArea

end DartBundle
