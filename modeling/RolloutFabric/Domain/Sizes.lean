/-
How many bytes a decision and a rollout snapshot take: identifiers, digests, times and counters
have fixed sizes, so only the texts, the stages and the decisions count.
-/
import RolloutFabric.Domain.Snapshot

namespace RolloutFabric

namespace ByteWriter

@[simp] theorem length_id {tag : IdTag} (v : StrongId tag) : (id v).length = 16 := v.bytes.size_eq

@[simp] theorem length_digest (v : Digest256) : (digest v).length = 32 := v.size_eq

@[simp] theorem length_timestamp (v : Timestamp) : (timestamp v).length = 8 := rfl

@[simp] theorem length_u8 (v : UInt8) : (u8 v).length = 1 := rfl

@[simp] theorem length_u32 (v : UInt32) : (u32 v).length = 4 := rfl

@[simp] theorem length_u64 (v : UInt64) : (u64 v).length = 8 := rfl

@[simp] theorem length_boolean (v : Bool) : (boolean v).length = 1 := rfl

@[simp] theorem length_string (t : Bytes) : (string t).length = 4 + t.length := by
  simp [string, count]

@[simp] theorem length_bytes (t : Bytes) : (bytes t).length = 4 + t.length := by
  simp [bytes, count]

theorem length_vector {α : Type} (encode : α → Bytes) (values : List α) :
    (vector encode values).length = 4 + (values.map fun a => (encode a).length).sum := by
  simp [vector, count, List.length_flatten, Function.comp_def]

end ByteWriter

theorem Decision.length_encode (d : Decision) :
    d.encode.length = 261 + d.selected.length + d.rationale.length
      + (d.rejected.map fun r => r.encode.length).sum := by
  simp only [encode, List.flatten_cons, List.flatten_nil, List.length_append, List.length_nil,
    ByteWriter.length_id, ByteWriter.length_u8, ByteWriter.length_u64, ByteWriter.length_timestamp,
    ByteWriter.length_digest, ByteWriter.length_string, ByteWriter.length_vector]
  omega

theorem Rollout.length_encode (r : Rollout) :
    r.encode.length = 258 + r.changeId.length + r.stateReason.length
      + (r.stages.map fun s => s.encode.length).sum
      + (r.decisions.map fun d => d.encode.length).sum := by
  simp only [encode, List.flatten_cons, List.flatten_nil, List.length_append, List.length_nil,
    ByteWriter.length_id, ByteWriter.length_u8, ByteWriter.length_u32, ByteWriter.length_u64,
    ByteWriter.length_timestamp, ByteWriter.length_digest, ByteWriter.length_string,
    ByteWriter.length_vector]
  omega

theorem length_encodeRolloutPayload (r : Rollout) :
    (encodeRolloutPayload r).length = 69 + r.encode.length := by
  simp only [encodeRolloutPayload, wrap, List.flatten_cons, List.flatten_nil, List.length_append,
    List.length_nil, ByteWriter.length_string, ByteWriter.length_u32, ByteWriter.length_bytes,
    (rolloutDigest r).size_eq]
  have htag : rolloutTag.length = 25 := by decide
  omega

end RolloutFabric
