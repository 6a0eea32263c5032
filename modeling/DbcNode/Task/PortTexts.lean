import Mathlib.Data.List.TakeWhile
import DbcNode.Lib.Digits
import DbcNode.Task.FileNames

namespace DbcNode

/-- The text is a number, and the port is that number. -/
def Denotes (text : Bytes) (port : UInt16) : Prop := isDigits text = true ∧ port.toNat = digitsValue text

/-- The text is the number of a port. -/
def Plain (text : Bytes) : Prop := isDigits text = true ∧ digitsValue text < 65536

section Numbers
variable {text other : Bytes}

theorem atoi_digits (digits : isDigits text = true) :
    atoi text = Int.bmod (saturate (digitsValue text)) (2 ^ 32) := by
  obtain ⟨filled, all⟩ := isDigits_iff.mp digits
  cases text with
  | nil => exact absurd rfl filled
  | cons b rest =>
    have first := all b List.mem_cons_self
    have whole : (b :: rest).takeWhile isDigit = b :: rest := List.takeWhile_eq_self_iff.mpr all
    have blank : isBlank b = false := by
      simp only [isDigit, isBlank, Bool.decide_or, Bool.decide_and, Bool.and_eq_true, Bool.or_eq_false_iff,
        Bool.and_eq_false_iff, decide_eq_true_eq, decide_eq_false_iff_not, UInt8.le_iff_toNat_le,
          ← UInt8.toNat_inj] at first ⊢
      have low : (48 : UInt8).toNat = 48 := rfl
      have space : (32 : UInt8).toNat = 32 := rfl
      have cr : (13 : UInt8).toNat = 13 := rfl
      omega
    have minus : b ≠ 45 := by
      rintro rfl
      exact absurd first (by decide)
    have plus : b ≠ 43 := by
      rintro rfl
      exact absurd first (by decide)
    rw [atoi, List.dropWhile_cons_of_neg (by rw [blank]; exact Bool.false_ne_true)]
    split
    · rename_i same
      exact absurd (List.cons.inj same).1 minus
    · rename_i same
      exact absurd (List.cons.inj same).1 plus
    · rw [whole]

theorem portOf_toNat (plain : Plain text) : (portOf text).toNat = digitsValue text := by
  obtain ⟨digits, small⟩ := plain
  have whole : saturate (digitsValue text : Int) = digitsValue text := by
    unfold saturate
    omega
  have low : Int.bmod (digitsValue text : Int) (2 ^ 32) = digitsValue text := by
    rw [Int.bmod_def]
    omega
  rw [portOf, atoi_digits digits, whole, low, UInt16.ofInt, UInt16.toNat_ofNat']
  omega

/-- The port that is read off a text is its number exactly where the text is
one of a port. -/
theorem denotes_portOf : Denotes text (portOf text) ↔ Plain text := by
  constructor
  · rintro ⟨digits, value⟩
    exact ⟨digits, value ▸ (portOf text).toNat_lt⟩
  · exact fun plain => ⟨plain.1, portOf_toNat plain⟩

theorem portOf_eq (plain : Plain text) (same : Plain other) :
    portOf text = portOf other ↔ digitsValue text = digitsValue other := by
  rw [← UInt16.toNat_inj, portOf_toNat plain, portOf_toNat same]

end Numbers

/-- The operating system that a request asks for. -/
def Json.operationSystem (doc : Json) : Bytes :=
  let text := doc.parseString (str "operation_system")
  toLower (if text = [] then str "linux" else text)

def Json.sshText (doc : Json) : Bytes := doc.parseString (str "ssh_port")

def Json.rdpText (doc : Json) : Bytes := doc.parseString (str "rdp_port")

def Json.vncText (doc : Json) : Bytes := doc.parseString (str "vnc_port")

namespace Host

/-- The ports of a new task are the numbers of their texts, unless a
standard port is taken in the place of one, and the rdp port of Windows is
the port that was checked: the checks are given the text of the ssh port. -/
structure CreateExact (doc : Json) (params : CreateTaskParams) : Prop where
  ssh : if isLinuxOs doc.operationSystem then isDigits doc.sshText = true → Denotes doc.sshText params.sshPort
    else doc.sshText ≠ [] → Denotes doc.sshText params.sshPort
  rdp : if isWindowsOs doc.operationSystem then
      if isDigits doc.sshText then Denotes doc.rdpText params.rdpPort ∧ params.rdpPort = portOf doc.sshText
      else isDigits doc.rdpText = true → Denotes doc.rdpText params.rdpPort
    else doc.rdpText ≠ [] → Denotes doc.rdpText params.rdpPort
  vnc : Denotes doc.vncText params.vncPort ∧ 5900 ≤ params.vncPort ∧ params.vncPort ≤ 6000

/-- The texts are numbers of ports where they are numbers, what nobody
checks is such a number, and the text of the ssh port is one for the rdp
port of Windows as well. -/
structure CreatePlain (doc : Json) : Prop where
  ssh : if isLinuxOs doc.operationSystem then isDigits doc.sshText = true → digitsValue doc.sshText < 65536
    else doc.sshText = [] ∨ Plain doc.sshText
  rdp : if isWindowsOs doc.operationSystem then
      if isDigits doc.sshText then Plain doc.rdpText ∧ digitsValue doc.rdpText = digitsValue doc.sshText
      else isDigits doc.rdpText = true → digitsValue doc.rdpText = 3389
    else doc.rdpText = [] ∨ Plain doc.rdpText
  vnc : digitsValue doc.vncText < 65536

variable {hw : Hardware} {w : World} {h : Host} {text : Bytes}

theorem checkDigits_eq_none {name : Bytes} : checkDigits name text = none ↔ isDigits text = true := by
  unfold checkDigits
  split
  · rename_i empty
    rw [empty]
    exact iff_of_false nofun (by decide)
  · split
    · rename_i fails
      rw [fails]
      exact iff_of_false nofun Bool.false_ne_true
    · rename_i digits
      exact iff_of_true rfl (by simpa using digits)

theorem checkVncPort_eq_none (passes : checkVncPort text = none) :
    isDigits text = true ∧ 5900 ≤ portOf text ∧ portOf text ≤ 6000 := by
  unfold checkVncPort at passes
  split at passes
  · cases passes
  · rename_i digits
    split at passes
    · cases passes
    · rename_i inside
      rw [not_or] at inside
      exact ⟨checkDigits_eq_none.mp digits, UInt16.not_lt.mp inside.1, UInt16.not_lt.mp inside.2⟩

theorem pass_ok {error : Option Bytes} {u : Unit} (ran : pass error = .ok u) : error = none := by
  cases error with
  | none => rfl
  | some error => cases ran

theorem createPort_ok {publicIp name : Bytes} {own standard port : UInt16}
    (ran : h.createPort publicIp text name own standard = .ok port) :
    port = if isDigits text then own else standard := by
  unfold createPort at ran
  split at ran
  · simp only [checkDigits_eq_none] at ran
    exact (Except.ok.inj ran).symm
  · obtain ⟨_, digits, ran⟩ := Checked.bind_ok ran
    obtain ⟨_, _, ran⟩ := Checked.bind_ok ran
    rw [if_pos (checkDigits_eq_none.mp (pass_ok digits))]
    exact (Except.ok.inj ran).symm

/-- One of the two ports, which is checked for one system only. -/
theorem systemPort_ok {publicIp name : Bytes} {own standard port : UInt16} {system : Bool}
    (ran : (if system then h.createPort publicIp text name own standard else .ok own) = .ok port) :
    port = if system ∧ isDigits text = false then standard else own := by
  cases system with
  | false => exact (Except.ok.inj ran).symm
  | true =>
    rw [createPort_ok ran]
    cases isDigits text with
    | false => rfl
    | true => rfl

/-- The ports that are accepted with a request. -/
theorem parseCreateParams_ports {role : UserRole} {doc : Json} {params : CreateTaskParams}
    (parsed : h.parseCreateParams hw w role (some doc) = .ok params) :
    (params.sshPort =
      if isLinuxOs doc.operationSystem ∧ isDigits doc.sshText = false then 22 else portOf doc.sshText) ∧
      (params.rdpPort =
        if isWindowsOs doc.operationSystem ∧ isDigits doc.sshText = false then 3389 else portOf doc.rdpText) ∧
      params.vncPort = portOf doc.vncText ∧ isDigits doc.vncText = true ∧ 5900 ≤ params.vncPort ∧
      params.vncPort ≤ 6000 := by
  unfold parseCreateParams at parsed
  obtain ⟨_, given, parsed⟩ := Checked.bind_ok parsed
  cases Except.ok.inj given
  iterate 7 obtain ⟨_, _, parsed⟩ := Checked.bind_ok parsed
  obtain ⟨sshPort, ssh, parsed⟩ := Checked.bind_ok parsed
  obtain ⟨rdpPort, rdp, parsed⟩ := Checked.bind_ok parsed
  obtain ⟨_, vnc, parsed⟩ := Checked.bind_ok parsed
  iterate 12 obtain ⟨_, _, parsed⟩ := Checked.bind_ok parsed
  cases Except.ok.inj parsed
  have checked := checkVncPort_eq_none (pass_ok vnc)
  exact ⟨systemPort_ok ssh, systemPort_ok rdp, rfl, checked⟩

/-- The ports of an accepted request are as they should be exactly where its
texts are. -/
theorem createExact_iff {role : UserRole} {doc : Json} {params : CreateTaskParams}
    (parsed : h.parseCreateParams hw w role (some doc) = .ok params) : CreateExact doc params ↔
      CreatePlain doc := by
  obtain ⟨ssh, rdp, vnc, vncDigits, low, high⟩ := parseCreateParams_ports parsed
  have sshIff : (if isLinuxOs doc.operationSystem then isDigits doc.sshText = true →
    Denotes doc.sshText params.sshPort
        else doc.sshText ≠ [] → Denotes doc.sshText params.sshPort) ↔
      (if isLinuxOs doc.operationSystem then isDigits doc.sshText = true → digitsValue doc.sshText < 65536
        else doc.sshText = [] ∨ Plain doc.sshText) := by
    split
    · refine forall_congr' fun digits => ?_
      rw [ssh, if_neg (by simp [digits]), denotes_portOf, Plain, and_iff_right digits]
    · rename_i other
      rw [ssh, if_neg (fun both => other both.1), denotes_portOf]
      exact or_iff_not_imp_left.symm
  have rdpIff (small : isDigits doc.sshText = true → Plain doc.sshText) :
      (if isWindowsOs doc.operationSystem then
          if isDigits doc.sshText then Denotes doc.rdpText params.rdpPort ∧ params.rdpPort = portOf doc.sshText
          else isDigits doc.rdpText = true → Denotes doc.rdpText params.rdpPort
        else doc.rdpText ≠ [] → Denotes doc.rdpText params.rdpPort) ↔
      (if isWindowsOs doc.operationSystem then
          if isDigits doc.sshText then Plain doc.rdpText ∧ digitsValue doc.rdpText = digitsValue doc.sshText
          else isDigits doc.rdpText = true → digitsValue doc.rdpText = 3389
        else doc.rdpText = [] ∨ Plain doc.rdpText) := by
    split
    · rename_i windows
      split
      · rename_i digits
        rw [rdp, if_neg (by simp [digits]), denotes_portOf]
        exact and_congr_right fun plain => portOf_eq plain (small digits)
      · rename_i other
        rw [rdp, if_pos ⟨windows, by simpa using other⟩]
        refine forall_congr' fun digits => ?_
        have standard : (3389 : UInt16).toNat = 3389 := rfl
        rw [Denotes, and_iff_right digits, standard]
        exact eq_comm
    · rename_i other
      rw [rdp, if_neg (fun both => other both.1), denotes_portOf]
      exact or_iff_not_imp_left.symm
  have vncIff : (Denotes doc.vncText params.vncPort ∧ 5900 ≤ params.vncPort ∧ params.vncPort ≤ 6000) ↔
      digitsValue doc.vncText < 65536 := by
    rw [and_iff_left ⟨low, high⟩, vnc, denotes_portOf, Plain, and_iff_right vncDigits]
  have small (plain : if isLinuxOs doc.operationSystem then isDigits doc.sshText = true →
    digitsValue doc.sshText < 65536
      else doc.sshText = [] ∨ Plain doc.sshText) (digits : isDigits doc.sshText = true) : Plain doc.sshText := by
    split at plain
    · exact ⟨digits, plain digits⟩
    · rcases plain with empty | plain
      · exact absurd empty (isDigits_iff.mp digits).1
      · exact plain
  constructor
  · intro sound
    have ssh := sshIff.mp sound.ssh
    exact ⟨ssh, (rdpIff (small ssh)).mp sound.rdp, vncIff.mp sound.vnc⟩
  · intro plain
    exact ⟨sshIff.mpr plain.ssh, (rdpIff (small plain.ssh)).mpr plain.rdp, vncIff.mpr plain.vnc⟩

end Host

end DbcNode
