import Mathlib.Data.List.AList
import Mathlib.Data.List.Sort
import Mathlib.Data.List.Lex
import Mathlib.Data.Char
import Monogon.Proto

/-! The hostsfile service's `nodeMap` and the two files written from it. `/etc/hosts` gets two
`localhost` lines and one line `address id` per node, in ascending ID order; the
ClusterDirectory gets the address of every node that is not the local one. -/

namespace Monogon.Hostsfile
open Monogon.Proto

/-- `nodeInfo`: a node's address, and whether the address belongs to the local node. -/
structure NodeInfo where
  address : String
  «local» : Bool
deriving DecidableEq, Repr

/-- `nodeMap`; a `range` over it visits its entries in an order every theorem leaves arbitrary. -/
abbrev NodeMap := AList (fun _ : String => NodeInfo)

/-- `m[id].address`, with Go's zero value `""` for an absent ID. -/
def NodeMap.address (m : NodeMap) (id : String) : String :=
  ((m.lookup id).map NodeInfo.address).getD ""

/-- Go's `<` on strings compares bytes; on UTF-8 text that is the order of code points. -/
def idLe (a b : String) : Prop := a.toList ≤ b.toList

instance : DecidableRel idLe := fun a b => inferInstanceAs (Decidable (a.toList ≤ b.toList))

/-- `nodeIdsSorted`. -/
def NodeMap.sortedIds (m : NodeMap) : List String :=
  m.keys.insertionSort idLe

/-- The line `fmt.Sprintf("%s %s", addr, nid)`. -/
def hostsLine (address id : String) : List Char :=
  address.toList ++ ' ' :: id.toList

/-- `nodeMap.hosts`: the lines joined by newlines, ending in an empty line. -/
def NodeMap.hosts (m : NodeMap) : List Char :=
  ['\n'].intercalate
    (["127.0.0.1 localhost".toList, "::1 localhost".toList] ++
      m.sortedIds.map (fun nid => hostsLine (m.address nid) nid) ++ [[]])

/-- `nodeMap.clusterDirectory`: one node per non-local entry, in iteration order. -/
def NodeMap.clusterDirectory (m : NodeMap) : ClusterDirectory :=
  ⟨m.entries.filterMap fun entry =>
    if entry.2.local then none else some ⟨[⟨entry.2.address⟩]⟩⟩

example : NodeMap.hosts ((∅ : NodeMap).insert "b" ⟨"10.0.0.2", false⟩ |>.insert "a" ⟨"10.0.0.1", true⟩) =
    "127.0.0.1 localhost\n::1 localhost\n10.0.0.1 a\n10.0.0.2 b\n".toList := by decide

theorem mem_sortedIds {m : NodeMap} {id : String} : id ∈ m.sortedIds ↔ id ∈ m.keys :=
  (List.perm_insertionSort idLe m.keys).mem_iff

/-! ## Reading the hosts file back -/

/-- The whitespace-separated fields of a line. -/
def fields (line : List Char) : List (List Char) :=
  (line.splitOnP Char.isWhitespace).filter (· ≠ [])

/-- The entry of one line: its first field is the address, the others are names. -/
def lineEntry (line : List Char) : Option (List Char × List (List Char)) :=
  match fields line with
  | [] => none
  | address :: names => some (address, names)

/-- A hosts file read as one address and its host names per non-blank line. -/
def parseHosts (text : List Char) : List (List Char × List (List Char)) :=
  (text.splitOn '\n').filterMap lineEntry

/-- The mappings from host name to address that a hosts file states. -/
def hostsMappings (text : List Char) : List (List Char × List Char) :=
  (parseHosts text).flatMap fun entry => entry.2.map (·, entry.1)

/-- Text that makes up exactly one field of a hosts line: non-empty, without whitespace. -/
def IsField (s : String) : Prop :=
  s.toList ≠ [] ∧ ∀ c ∈ s.toList, c.isWhitespace = false

instance : DecidablePred IsField := fun s =>
  inferInstanceAs (Decidable (s.toList ≠ [] ∧ ∀ c ∈ s.toList, c.isWhitespace = false))

/-- The mappings a hosts file for `m` is meant to state. -/
def nodeMappings (m : NodeMap) : List (List Char × List Char) :=
  ("localhost".toList, "127.0.0.1".toList) :: ("localhost".toList, "::1".toList) ::
    m.sortedIds.map fun id => (id.toList, (m.address id).toList)

theorem fields_hostsLine {address id : String} (addressField : IsField address) (idField : IsField id) :
    fields (hostsLine address id) = [address.toList, id.toList] := by
  have noBlank : ∀ {s : String}, IsField s → ∀ c ∈ s.toList, ¬c.isWhitespace = true :=
    fun field c member => by simp [field.2 c member]
  unfold fields hostsLine
  rw [List.splitOnP_first _ _ (noBlank addressField) ' ' rfl, List.splitOnP_eq_single _ _ (noBlank idField)]
  simpa using And.intro addressField.1 idField.1

theorem newline_not_mem_hostsLine {address id : String} (addressField : IsField address)
    (idField : IsField id) : '\n' ∉ hostsLine address id := by
  intro member
  simp only [hostsLine, List.mem_append, List.mem_cons] at member
  rcases member with inAddress | space | inId
  · exact absurd (addressField.2 _ inAddress) (by decide)
  · exact absurd space (by decide)
  · exact absurd (idField.2 _ inId) (by decide)

/-- When every node ID and address is one field, the hosts file reads back as `localhost` and one entry per node. -/
theorem parseHosts_hosts (m : NodeMap) (plain : ∀ id ∈ m.keys, IsField id ∧ IsField (m.address id)) :
    parseHosts m.hosts = ("127.0.0.1".toList, ["localhost".toList]) ::
      ("::1".toList, ["localhost".toList]) ::
        m.sortedIds.map fun id => ((m.address id).toList, [id.toList]) := by
  have sorted : ∀ id ∈ m.sortedIds, IsField id ∧ IsField (m.address id) :=
    fun id member => plain id (mem_sortedIds.mp member)
  have noNewline : ∀ line ∈ ["127.0.0.1 localhost".toList, "::1 localhost".toList] ++
      m.sortedIds.map (fun nid => hostsLine (m.address nid) nid) ++ [[]], '\n' ∉ line := by
    intro line member
    simp only [List.mem_append, List.mem_cons, List.mem_map, List.mem_singleton,
      List.not_mem_nil, or_false] at member
    rcases member with ((rfl | rfl) | ⟨id, member, rfl⟩) | rfl
    · decide
    · decide
    · exact newline_not_mem_hostsLine (sorted id member).2 (sorted id member).1
    · simp
  have nodeLines : ∀ id ∈ m.sortedIds, (lineEntry ∘ fun nid => hostsLine (m.address nid) nid) id =
      (some ∘ fun id => ((m.address id).toList, [id.toList])) id :=
    fun id member => by
      simp [lineEntry, fields_hostsLine (sorted id member).2 (sorted id member).1]
  unfold parseHosts NodeMap.hosts
  rw [List.splitOn_intercalate _ '\n' noNewline (by simp), List.filterMap_append,
    List.filterMap_append, List.filterMap_map, List.filterMap_congr nodeLines, List.filterMap_eq_map]
  have header : ["127.0.0.1 localhost".toList, "::1 localhost".toList].filterMap lineEntry =
      [("127.0.0.1".toList, ["localhost".toList]), ("::1".toList, ["localhost".toList])] := by decide
  have trailer : [([] : List Char)].filterMap lineEntry = [] := by decide
  rw [header, trailer]
  simp

theorem parseHosts_hosts_two_nodes :
    let m : NodeMap := ((∅ : NodeMap).insert "b" ⟨"10.0.0.2", false⟩).insert "a" ⟨"10.0.0.1", true⟩
    (∀ id ∈ m.keys, IsField id ∧ IsField (m.address id)) ∧
      parseHosts (NodeMap.hosts m) = ("127.0.0.1".toList, ["localhost".toList]) ::
        ("::1".toList, ["localhost".toList]) ::
          (NodeMap.sortedIds m).map fun id => ((m.address id).toList, [id.toList]) :=
  ⟨by decide, parseHosts_hosts _ (by decide)⟩

/-- An address holding a blank maps another node's name. -/
theorem hosts_blank_address_maps_other_node :
    let m : NodeMap := ((∅ : NodeMap).insert "b" ⟨"10.0.0.2", false⟩).insert "a" ⟨"10.0.0.1 b", false⟩
    ("b".toList, "10.0.0.1".toList) ∈ hostsMappings (NodeMap.hosts m) ∧
      ("b".toList, "10.0.0.1".toList) ∉ nodeMappings m := by
  decide

end Monogon.Hostsfile
