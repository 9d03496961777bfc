import WebSocketSession.CommandLine

/-!
# The frame size of a command line

Whatever a command line asks for, the size of the frames is at least one and no more than a size
can say: the default is, and every option that names another is judged. Each step of the reading
keeps that (`take_sound`), and so does the whole of it (`parse_sound`).
-/

set_option autoImplicit false
set_option relaxedAutoImplicit false

namespace WebSocketSession

namespace Numeral

private theorem extend_le {bound value n : Nat} {beyond : NumeralError} {digits : List Char}
    (within : value ≤ bound) (read : extend bound beyond value digits = .ok n) : n ≤ bound := by
  induction digits generalizing value with
  | nil =>
    cases read
    exact within
  | cons c rest ih =>
    rw [extend] at read
    split at read
    · cases read
    · split at read
      · rename_i fits
        exact ih fits read
      · cases read

private theorem unsigned_le {bound n : Nat} {text : String} (read : unsigned bound text = .ok n) :
    n ≤ bound := by
  have magnitude_le {digits : List Char} (read : magnitude bound .tooLarge digits = .ok n) :
      n ≤ bound := by
    cases digits with
    | nil => cases read
    | cons c rest => exact extend_le (Nat.zero_le bound) read
  unfold unsigned at read
  split at read
  · cases read
  · exact magnitude_le read
  · exact magnitude_le read

end Numeral

namespace CommandLine

def Options.Sound (options : Options) : Prop :=
  0 < options.fragmentSize ∧ options.fragmentSize ≤ Numeral.sizeMax

private theorem size_le {value : String} {n : Nat} (read : size value = .ok n) :
    n ≤ Numeral.sizeMax := by
  unfold size at read
  split at read
  · rename_i within
    cases read
    exact Numeral.unsigned_le within
  · cases read

private theorem bind_ok {α β : Type} {first : Except Stop α} {following : α → Except Stop β} {b : β}
    (done : (first >>= following) = .ok b) : ∃ a, first = .ok a ∧ following a = .ok b := by
  cases first with
  | error stop => cases done
  | ok a => exact ⟨a, rfl, done⟩

private theorem set_sound {options later : Options} {setting : Setting} {value : String}
    (sound : options.Sound) (set : options.set setting value = .ok later) : later.Sound := by
  cases setting with
  | fragmentSize =>
    obtain ⟨n, read, rest⟩ := bind_ok set
    split at rest
    · cases rest
    · rename_i positive
      cases rest
      exact ⟨Nat.pos_of_ne_zero positive, size_le read⟩
  | _ =>
    obtain ⟨chosen, -, rest⟩ := bind_ok set
    cases rest
    exact sound

namespace Progress

variable {progress later : Progress} {text : String}

private theorem set_sound {setting : Setting} {value : Option String}
    (sound : progress.options.Sound)
    (set : progress.set setting value = .ok later) : later.options.Sound := by
  unfold Progress.set at set
  split at set
  · cases set
  · split at set
    · cases set
    · split at set
      · rename_i judged
        cases set
        exact CommandLine.set_sound sound judged
      · cases set

private theorem settle_sound (sound : progress.options.Sound)
    (settled : progress.settle = .ok later) :
    later.options.Sound := by
  unfold settle at settled
  split at settled
  · cases settled
    exact sound
  · refine set_sound ?_ settled
    exact sound

private theorem takeMessage_sound (sound : progress.options.Sound)
    (taken : progress.takeMessage text = .ok later) : later.options.Sound := by
  unfold takeMessage at taken
  split at taken
  · cases taken
  · cases settled : progress.settle with
    | error stop =>
      rw [settled] at taken
      cases taken
    | ok before =>
      rw [settled] at taken
      have kept := settle_sound sound settled
      cases taken
      exact kept

private theorem takeSetting_sound {setting : Setting} {attached : Option String}
    (sound : progress.options.Sound) (taken : progress.takeSetting setting attached = .ok later) :
    later.options.Sound := by
  obtain ⟨before, settled, rest⟩ := bind_ok taken
  have kept := settle_sound sound settled
  split at rest
  · exact set_sound kept rest
  · cases rest
    exact kept

private theorem takeStop_ne_ok (stop : Stop) : progress.takeStop stop ≠ .ok later := by
  intro taken
  unfold takeStop at taken
  split at taken
  · obtain ⟨before, -, stopped⟩ := bind_ok taken
    cases stopped
  · obtain ⟨before, -, stopped⟩ := bind_ok taken
    cases stopped
  · cases taken

theorem take_sound (sound : progress.options.Sound) (taken : progress.take text = .ok later) :
    later.options.Sound := by
  unfold take at taken
  split at taken
  · exact takeMessage_sound sound taken
  · split at taken
    · cases taken
      exact sound
    · exact takeSetting_sound sound taken
    · exact absurd taken (takeStop_ne_ok _)
    · unfold takePlain at taken
      split at taken
      · cases taken
        exact sound
      · exact takeMessage_sound sound taken

private theorem foldlM_take_sound {arguments : List String} (sound : progress.options.Sound)
    (read : arguments.foldlM take progress = .ok later) : later.options.Sound := by
  induction arguments generalizing progress with
  | nil =>
    cases read
    exact sound
  | cons text rest ih =>
    rw [List.foldlM_cons] at read
    obtain ⟨next, taken, others⟩ := bind_ok read
    exact ih (take_sound sound taken) others

end Progress

theorem parse_sound {arguments : List String} {options : Options}
    (parsed : parse arguments = .ok options) : options.Sound := by
  obtain ⟨read, taken, rest⟩ := bind_ok parsed
  obtain ⟨settled, judged, done⟩ := bind_ok rest
  cases done
  have start : Progress.start.options.Sound := ⟨by decide, by decide⟩
  exact Progress.settle_sound (Progress.foldlM_take_sound start taken) judged

end CommandLine

end WebSocketSession
