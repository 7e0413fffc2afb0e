import IfaceMonitor.Proofs.CommandLine.Run

namespace IfaceMonitor.CommandLine

theorem decodeText_outputText {services : List Service}
    (normal : ∀ s ∈ services, s.parameters.Normal)
    (speeds : ∀ s ∈ services, ∀ speed ∈ s.parameters.speed, speed.isFinite = true ∧
      Json.Survives speed) :
    decodeText (Json.list Service.decode) (outputText Service.encode services).toUTF8 =
      some services := by
  have writable : Json.Writable Json.maxLevels (Json.ofList Service.encode services) :=
    Json.writable_ofList fun s listed =>
      Service.writable_encode 120 fun speed known _ => (speeds s listed speed known).2
  have decoded : Json.list Service.decode (Json.ofList Service.encode services) = .ok services :=
    Json.list_ofList fun s listed =>
      Service.decode_encode (normal s listed) fun speed known => (speeds s listed speed known).1
  have parsed : Json.parse? (outputText Service.encode services) =
      some (Json.ofList Service.encode services) :=
    Json.parse?_pretty writable
  simp only [decodeText, fromUTF8?_toUTF8, Option.bind_eq_bind, Option.bind_some, parsed, decoded]
  rfl

section Discovered
variable {files : Folder} {source : SectionSource} {rulesPath : Option String}
  {interfaces : Section} {rules : List DiscoveryRule}
  (read : (readSection Folder.access source files).1 = .ok interfaces)
  (valid : (readRules Folder.access rulesPath files).1 = .ok rules)
include read valid

theorem run_discover (now : Option Float) :
    run Folder.access now (.discover source rulesPath) files =
      (.ok (outputText Service.encode (findServices rules interfaces)), files) := by
  simp only [run, bind_apply, (Reads.interfaces source).apply read,
    (Reads.rules rulesPath).apply valid]
  rfl

/-- A check over the output of discovery gives the same output and leaves the same folder as the
check that discovers, whatever becomes of them, if the speeds in it are finite and are read back
from their text. Rules are not read a second time, so they may be given or not. -/
theorem check_discovered_services
    (speeds : ∀ s ∈ findServices rules interfaces, ∀ speed ∈ s.parameters.speed,
      speed.isFinite = true ∧ Json.Survives speed)
    {before : Option Float} {output path : String}
    (discovered : (run Folder.access before (.discover source rulesPath) files).1 = .ok output)
    (stored : files.read path = .bytes output.toUTF8) (now : Option Float)
    (unread params : Option String) (stateFile : String) (time : Option Float) :
    run Folder.access now (.check source unread (some path) params stateFile time) files =
      run Folder.access now (.check source rulesPath none params stateFile time) files := by
  have normal : ∀ s ∈ findServices rules interfaces, s.parameters.Normal := fun s found =>
    Discovery.normal_of_mem_findServices ((Reads.interfaces source).value files interfaces read)
      ((Reads.rules rulesPath).value files rules valid) found
  rw [run_discover read valid] at discovered
  obtain rfl := Except.ok.inj discovered
  have fromFile : readServices Folder.access interfaces unread (some path) files =
      (.ok (findServices rules interfaces), files) :=
    readRecord_of_decodeText stored (decodeText_outputText normal speeds)
  have fromRules : readServices Folder.access interfaces rulesPath none files =
      (.ok (findServices rules interfaces), files) := by
    simp only [readServices, bind_apply, (Reads.rules rulesPath).apply valid]
    rfl
  have same : readCycle now source unread (some path) params time files =
      readCycle now source rulesPath none params time files := by
    simp only [readCycle, bind_apply, (Reads.interfaces source).apply read, fromFile, fromRules]
  rw [run_check, run_check, same]

end Discovered

def bondServices : String :=
  "[\n  \x7b\n    \"item\": \"bond\",\n    \"parameters\": \x7b\n      \"discovered_oper_status\": [\n        \"1\"\n      ],\n" ++
    "      \"discovered_speed\": 1000.0,\n      \"aggregate\": \x7b\n        \"member_appearance\": \"index\",\n" ++
    "        \"inclusion_condition\": \x7b\n          \"match_index\": [\n            \"1\"\n" ++
    "          ],\n          \"portstates\": [\n            \"1\",\n            \"10\"\n          ]\n" ++
    "        \x7d\n      \x7d\n    \x7d\n  \x7d\n]\n"

def bondSource : SectionSource :=
  { interfaces := some "ports.json", nodes := [], kernelStatistics := standardStatistics }

def bondFolder : Folder :=
  ((Table.empty.insert "ports.json"
      "[\x7b\"attributes\":\x7b\"index\":\"1\",\"oper_status\":\"1\",\"speed\":1000\x7d,\"counters\":\x7b\x7d\x7d]").insert
    "rules.json"
      ("[\x7b\"matching_conditions\":\x7b\"match_index\":[\"1\"],\"portstates\":[\"1\",\"10\"]\x7d," ++
        "\"grouping\":\x7b\"enabled\":true,\"group_items\":[\x7b\"group_name\":\"bond\"\x7d]\x7d\x7d]")).insert
    "services.json" bondServices

def checkBond (rules services : Option String) : ExceptT RunError (StateM Folder) String :=
  run Folder.access none (.check bondSource rules services none "state.json" (some 5.0))

theorem check_discovered_bond :
    (run Folder.access none (.discover bondSource (some "rules.json")) bondFolder).1 =
      .ok bondServices ∧
      bondFolder.read "services.json" = .bytes bondServices.toUTF8 ∧
      ∃ report after, checkBond none (some "services.json") bondFolder = (.ok report, after) ∧
        checkBond (some "rules.json") none bondFolder = (.ok report, after) := by
  have found : ((readSection Folder.access bondSource bondFolder).1.toOption.any fun interfaces =>
      (readRules Folder.access (some "rules.json") bondFolder).1.toOption.any fun rules =>
        decide ((∀ s ∈ findServices rules interfaces, ∀ speed ∈ s.parameters.speed,
          speed.isFinite = true ∧ Json.Survives speed) ∧
            outputText Service.encode (findServices rules interfaces) = bondServices)) =
              true := by decide +kernel
  simp only [Option.any_eq_true, toOption_eq_some, decide_eq_true_eq] at found
  obtain ⟨interfaces, read, rules, valid, speeds, printed⟩ := found
  have discovered : (run Folder.access none
      (.discover bondSource (some "rules.json")) bondFolder).1 = .ok bondServices := by
    rw [run_discover read valid, printed]
  have stored : bondFolder.read "services.json" = .bytes bondServices.toUTF8 := rfl
  obtain ⟨report, after, done, -⟩ :=
    eq_ok_of_isSome (p := checkBond (some "rules.json") none bondFolder) (by decide +kernel)
  have same : checkBond none (some "services.json") bondFolder =
      checkBond (some "rules.json") none bondFolder :=
    check_discovered_services read valid speeds discovered stored none none none "state.json"
      (some 5.0)
  exact ⟨discovered, stored, report, after, same.trans done, done⟩

end IfaceMonitor.CommandLine
