import Colloquy.Proofs.Document.Items

/-!
# Entries

What is found under the keys of entries, which are the members of nodes and trees that records are
built of.

* `getMember?_dataEntry`, `getMember?_ofParts`, `getMember?_treeMembers`: under other keys there is
  what was there before;
* `getMember?_content`, `getMember?_choices`, `getMember?_id`, `getMember?_data`,
  `getMember?_nodes`, `getMember?_connections`: under their own keys there are the parts.
-/

namespace Colloquy.Document

open Json (getMember? getMember?_putMember renameMembers)

variable {members data : Json.Members} {key : String}

section Others

theorem getMember?_dataEntry (choices : List Json) (h : key ∉ ["content", "choices"]) :
    getMember? (dataEntry data choices) key = getMember? data key := by
  rw [dataEntry, getMember?_putMember, getMember?_putMember, if_neg (by grind), if_neg (by grind)]

theorem getMember?_ofParts (id : String) (h : key ∉ ["id", "data"]) :
    getMember? (NodeEntry.ofParts id members data).members key = getMember? members key := by
  rw [NodeEntry.ofParts, getMember?_putMember, getMember?_putMember, if_neg (by grind),
    if_neg (by grind)]

theorem getMember?_treeMembers (entries : List NodeEntry) (connections : List Json.Members)
    (h : key ∉ ["nodes", "connections"]) :
    getMember? (treeMembers members entries connections) key = getMember? members key := by
  rw [treeMembers, getMember?_putMember, getMember?_putMember, if_neg (by grind),
    if_neg (by grind)]

end Others

section Own

theorem getMember?_content (data : Json.Members) (choices : List Json) :
    getMember? (dataEntry data choices) "content" = some (contentOf data) := by
  rw [dataEntry, getMember?_putMember, getMember?_putMember, if_neg (by decide), if_pos rfl]

theorem getMember?_choices (data : Json.Members) (choices : List Json) :
    getMember? (dataEntry data choices) "choices" = some (.list choices) := by
  rw [dataEntry, getMember?_putMember, if_pos rfl]

theorem getMember?_id (id : String) (members data : Json.Members) :
    getMember? (NodeEntry.ofParts id members data).members "id" = some (.text id) := by
  rw [NodeEntry.ofParts, getMember?_putMember, getMember?_putMember, if_neg (by decide), if_pos rfl]

theorem getMember?_data (id : String) (members data : Json.Members) :
    getMember? (NodeEntry.ofParts id members data).members "data" = some (.object data) := by
  rw [NodeEntry.ofParts, getMember?_putMember, if_pos rfl]

theorem getMember?_nodes (members : Json.Members) (entries : List NodeEntry)
    (connections : List Json.Members) :
    getMember? (treeMembers members entries connections) "nodes" =
      some (.object ((mergeEntries entries).toList.map fun entry =>
        (entry.id, .object entry.members))) := by
  rw [treeMembers, getMember?_putMember, getMember?_putMember, if_neg (by decide), if_pos rfl]

theorem getMember?_connections (members : Json.Members) (entries : List NodeEntry)
    (connections : List Json.Members) :
    getMember? (treeMembers members entries connections) "connections" =
      some (.list (connections.map fun connection =>
        .object (renameMembers connectionKey connection))) := by
  rw [treeMembers, getMember?_putMember, if_pos rfl]

end Own

end Colloquy.Document
