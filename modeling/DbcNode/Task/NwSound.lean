import DbcNode.Task.NwFilter

namespace DbcNode

/-- The order of the rules, whatever the texts are. -/
theorem foldl_sortItem (nwfilters : List Bytes) (sorted : List NwRule × List NwItem) :
    nwfilters.foldl sortItem sorted =
      (sorted.1 ++ ((nwItems nwfilters).filter fun item => ¬ item.isAll).filterMap ruleFunc,
        ((nwItems nwfilters).filter fun item => item.isAll ∧ item.action = str "accept").reverse ++ sorted.2 ++
          (nwItems nwfilters).filter fun item => item.isAll ∧ item.action = str "drop") := by
  induction nwfilters generalizing sorted with
  | nil => simp [nwItems]
  | cons text rest ih =>
    rw [List.foldl_cons, ih]
    unfold sortItem
    cases parts : nwItem text with
    | none => simp [nwItems, parts]
    | some item =>
      have apart : str "drop" ≠ str "accept" := by decide
      have items : nwItems (text :: rest) = item :: nwItems rest := by simp [nwItems, parts]
      rw [items]
      cases all : item.isAll with
      | false =>
        cases made : ruleFunc item with
        | none => simp [all, made]
        | some rule => simp [all, made]
      | true =>
        by_cases drop : item.action = str "drop"
        · simp [all, drop, apart]
        · by_cases accept : item.action = str "accept"
          · simp [all, accept, apart.symm]
          · simp [all, drop, accept]

section Addresses
variable {text : Bytes}

theorem octet_lt {n : Nat} (number : octet text = some n) : n < 256 := by
  unfold octet at number
  split at number
  · rename_i small
    cases number
    exact small.2
  · cases number

theorem addressOf_lt {base : Nat} (known : addressOf text = some base) : base < 2 ^ 32 := by
  unfold addressOf at known
  split at known
  · obtain ⟨a, first, known⟩ := Option.bind_eq_some_iff.mp known
    obtain ⟨b, second, known⟩ := Option.bind_eq_some_iff.mp known
    obtain ⟨c, third, known⟩ := Option.bind_eq_some_iff.mp known
    obtain ⟨d, fourth, known⟩ := Option.bind_eq_some_iff.mp known
    cases known
    have hereA := octet_lt first
    have hereB := octet_lt second
    have hereC := octet_lt third
    have hereD := octet_lt fourth
    omega
  · cases known

theorem cidrOf_bounds {base length : Nat} (known : cidrOf text = some (base, length)) :
    base < 2 ^ 32 ∧ length ≤ 32 := by
  unfold cidrOf at known
  split at known
  · split at known
    · rename_i short
      obtain ⟨here, address, same⟩ := Option.map_eq_some_iff.mp known
      cases same
      exact ⟨addressOf_lt address, short.2⟩
    · cases known
  · cases known

/-- An address that no packet is apart from has a prefix of length zero. -/
theorem cidrCovers_all : (∀ remote, cidrCovers text remote) ↔ ∃ base, cidrOf text = some (base, 0) := by
  constructor
  · intro all
    obtain ⟨base, length, known, low⟩ := all 0
    obtain ⟨_, _, same, high⟩ := all 0x80000000
    rw [known] at same
    cases same
    have short := (cidrOf_bounds known).2
    have zero : length = 0 := by
      by_contra positive
      have divides : 2 ^ (32 - length) ≤ 2 ^ 31 := Nat.pow_le_pow_right (by decide) (by omega)
      rw [← low] at high
      have top : (0x80000000 : UInt32).toNat = 2 ^ 31 := by decide
      have bottom : (0 : UInt32).toNat = 0 := rfl
      rw [top, bottom, Nat.zero_div] at high
      have := Nat.div_pos divides (by positivity)
      omega
    exact ⟨base, zero ▸ known⟩
  · rintro ⟨base, known⟩ remote
    refine ⟨base, 0, known, ?_⟩
    rw [Nat.div_eq_of_lt remote.toNat_lt, Nat.div_eq_of_lt (cidrOf_bounds known).1]

end Addresses

section Ports
variable {text : Bytes} {first last : UInt16}

theorem portNumber_filled {port : UInt16} (number : portNumber text = some port) : text ≠ [] := by
  unfold portNumber at number
  split at number
  · rename_i digits
    exact (isDigits_iff.mp digits.1).1
  · cases number

/-- A port field is the one text `all`, or a number, or two numbers in their
order. -/
theorem portField_range (field : portField text = some (.range first last)) :
    first ≤ last ∧ ((∃ port, splitText 45 text = [port] ∧ portNumber port = some first ∧ first = last) ∨
      ∃ start stop, splitText 45 text = [start, stop] ∧ portNumber start = some first ∧ portNumber stop =
        some last) := by
  unfold portField at field
  split at field
  · cases field
  split at field
  · rename_i port parts
    obtain ⟨number, read, same⟩ := Option.map_eq_some_iff.mp field
    cases same
    refine ⟨UInt16.le_refl _, Or.inl ⟨port, ?_, read, rfl⟩⟩
    rw [splitText, parts, List.filter_cons_of_pos (by simpa using portNumber_filled read), List.filter_nil]
  · rename_i low high parts
    split at field
    · rename_i start stop
      split at field
      · rename_i ordered
        cases field
        refine ⟨ordered, Or.inr ⟨low, high, ?_, start, stop⟩⟩
        rw [splitText, parts, List.filter_cons_of_pos (by simpa using portNumber_filled start),
          List.filter_cons_of_pos (by simpa using portNumber_filled stop), List.filter_nil]
      · cases field
    · cases field
  · cases field

theorem portField_all (field : portField text = some .all) : text = str "all" := by
  unfold portField at field
  split at field
  · assumption
  split at field
  · obtain ⟨_, _, wrong⟩ := Option.map_eq_some_iff.mp field
    cases wrong
  · split at field
    · split at field
      · cases field
      · cases field
    · cases field
  · cases field

end Ports

/-- The packets that the rule of a protocol and a port field is about, where
libvirt takes it. The element for a service of more than one port is none
that libvirt knows. -/
def NwProtocol.kept : NwProtocol → PortField → Option NwProtocol
  | .all, _ => some .all
  | .icmp, _ => some .icmp
  | .tcp, .range first last => some (.tcpPorts first last)
  | .udp, .range first last => some (.udpPorts first last)
  | .tcp, .all | .udp, .all => none
  | .tcpPorts first last, _ => some (if first = last then .tcpPorts first last else .all)
  | .udpPorts first last, _ => some (if first = last then .udpPorts first last else .all)

/-- What an element stands for. -/
def elementMeans (element : Option NwElement) (kept : Option NwProtocol) : Prop :=
  (elementValid element ↔ kept.isSome) ∧
    ∀ protocol, kept = some protocol → ∀ payload, elementTakes element payload ↔ protocol.Covers payload

section Elements
variable {name text start stop : Bytes} {first last : UInt16}

theorem elementTakes_some {e : NwElement} {payload : Payload} : elementTakes (some e) payload ↔ e.Matches payload :=
  ⟨fun takes => takes e rfl, fun here _ same => Option.some.inj same ▸ here⟩

theorem elementValid_some {e : NwElement} : elementValid (some e) ↔ e.Valid :=
  ⟨fun valid => valid e rfl, fun valid _ same => Option.some.inj same ▸ valid⟩

theorem allows_one {port : UInt16} (number : portNumber text = some first) :
    NwElement.Allows ⟨name, some text, none⟩ port ↔ first ≤ port ∧ port ≤ first := by
  have same : (first ≤ port ∧ port ≤ first) ↔ port = first :=
    ⟨fun both => UInt16.le_antisymm both.2 both.1, fun same => same ▸ ⟨UInt16.le_refl _, UInt16.le_refl _⟩⟩
  rw [same]
  constructor
  · intro allows
    exact allows text first rfl number
  · rintro rfl here value start other
    cases start
    rw [number] at other
    cases other
    rfl

theorem allows_range {port : UInt16} (low : portNumber start = some first) (high : portNumber stop = some last) :
    NwElement.Allows ⟨name, some start, some stop⟩ port ↔ first ≤ port ∧ port ≤ last := by
  constructor
  · intro allows
    have between := allows start first rfl low
    rw [Option.bind_some, high] at between
    exact between
  · intro between here value start other
    cases start
    rw [low] at other
    cases other
    rw [Option.bind_some, high]
    exact between

theorem means_all {e : NwElement} (tcp : e.name ≠ str "tcp") (udp : e.name ≠ str "udp")
    (icmp : e.name ≠ str "icmp") :
    elementMeans (some e) (some .all) := by
  refine ⟨iff_of_true (elementValid_some.mpr fun ports => ?_) rfl, fun protocol same payload => ?_⟩
  · rcases ports with isTcp | isUdp
    · exact absurd isTcp tcp
    · exact absurd isUdp udp
  · cases same
    rw [elementTakes_some, NwElement.Matches, if_neg tcp, if_neg udp, if_neg icmp]
    rfl

theorem means_icmp : elementMeans (some ⟨str "icmp", none, none⟩) (some .icmp) := by
  refine ⟨iff_of_true (elementValid_some.mpr fun _ => ⟨nofun, nofun⟩) rfl, fun protocol same payload => ?_⟩
  cases same
  rw [elementTakes_some, NwElement.Matches, if_neg (by decide), if_neg (by decide), if_pos rfl]
  rfl

/-- The attributes of an element are numbers, and allow the ports between
two of them. -/
structure NwElement.Ranges (e : NwElement) (first last : UInt16) : Prop where
  start : ∀ text, e.dstportstart = some text → portNumber text ≠ none
  stop : ∀ text, e.dstportend = some text → portNumber text ≠ none
  allows : ∀ port, e.Allows port ↔ first ≤ port ∧ port ≤ last

theorem ranges_one (number : portNumber text = some first) :
    NwElement.Ranges ⟨name, some text, none⟩ first first where
  start := by
    intro here same missing
    cases same
    rw [number] at missing
    cases missing
  stop := nofun
  allows _ := allows_one number

theorem ranges_pair (low : portNumber start = some first) (high : portNumber stop = some last) :
    NwElement.Ranges ⟨name, some start, some stop⟩ first last where
  start := by
    intro here same missing
    cases same
    rw [low] at missing
    cases missing
  stop := by
    intro here same missing
    cases same
    rw [high] at missing
    cases missing
  allows _ := allows_range low high

theorem means_tcp {e : NwElement} (tcp : e.name = str "tcp") (ranges : e.Ranges first last) :
    elementMeans (some e) (some (.tcpPorts first last)) := by
  refine ⟨iff_of_true (elementValid_some.mpr fun _ => ⟨ranges.start, ranges.stop⟩) rfl,
    fun protocol same payload => ?_⟩
  cases same
  rw [elementTakes_some, NwElement.Matches, if_pos tcp]
  exact exists_congr fun port => and_congr_right fun _ => ranges.allows port

theorem means_udp {e : NwElement} (udp : e.name = str "udp") (ranges : e.Ranges first last) :
    elementMeans (some e) (some (.udpPorts first last)) := by
  refine ⟨iff_of_true (elementValid_some.mpr fun _ => ⟨ranges.start, ranges.stop⟩) rfl,
    fun protocol same payload => ?_⟩
  cases same
  rw [elementTakes_some, NwElement.Matches, udp, if_neg (by decide), if_pos rfl]
  exact exists_congr fun port => and_congr_right fun _ => ranges.allows port

/-- A port that is no number is refused. -/
theorem means_refused (ports : name = str "tcp" ∨ name = str "udp") (wrong : portNumber text = none) :
    elementMeans (some ⟨name, some text, none⟩) none :=
  ⟨iff_of_false (fun valid => (elementValid_some.mp valid ports).1 text rfl wrong) nofun, nofun⟩

end Elements

section Elements
variable {name port : Bytes} {field : PortField} {element : Option NwElement}

/-- The element of a protocol that has ports, for the ports that it is
given. -/
theorem protocolElement_ports (ports : name = str "tcp" ∨ name = str "udp") (here : portField port = some field)
    (made : protocolElement name port = some element) :
    match field with
    | .all => elementMeans element none
    | .range first last => ∃ e, element = some e ∧ e.name = name ∧ e.Ranges first last := by
  have apart : name ≠ str "all" := by
    rcases ports with rfl | rfl
    · decide
    · decide
  rw [protocolElement, if_neg apart, if_pos ports] at made
  cases field with
  | all =>
    have split : splitText 45 port = [str "all"] := by
      rw [portField_all here]
      decide
    rw [split] at made
    cases made
    exact means_refused ports (by decide)
  | range first last =>
    obtain ⟨_, ⟨_, split, number, same⟩ | ⟨start, stop, split, low, high⟩⟩ := portField_range here
    · rw [split] at made
      cases made
      exact ⟨_, rfl, rfl, same ▸ ranges_one number⟩
    · rw [split] at made
      cases made
      exact ⟨_, rfl, rfl, ranges_pair low high⟩

theorem protocolElement_tcp (tcp : name = str "tcp") (here : portField port = some field)
    (made : protocolElement name port = some element) : elementMeans element (NwProtocol.tcp.kept field) := by
  have ports := protocolElement_ports (Or.inl tcp) here made
  cases field with
  | all => exact ports
  | range first last =>
    obtain ⟨e, rfl, same, ranges⟩ := ports
    exact means_tcp (same.trans tcp) ranges

theorem protocolElement_udp (udp : name = str "udp") (here : portField port = some field)
    (made : protocolElement name port = some element) : elementMeans element (NwProtocol.udp.kept field) := by
  have ports := protocolElement_ports (Or.inr udp) here made
  cases field with
  | all => exact ports
  | range first last =>
    obtain ⟨e, rfl, same, ranges⟩ := ports
    exact means_udp (same.trans udp) ranges

theorem protocolElement_means {protocol : NwProtocol} (known : nwProtocol name = some protocol)
    (here : portField port = some field) (made : protocolElement name port = some element) :
    elementMeans element (protocol.kept field) := by
  unfold nwProtocol at known
  by_cases all : name = str "all"
  · subst all
    cases known
    cases made
    exact means_all (by decide) (by decide) (by decide)
  rw [if_neg all] at known
  by_cases tcp : name = str "tcp"
  · rw [if_pos tcp] at known
    cases known
    exact protocolElement_tcp tcp here made
  rw [if_neg tcp] at known
  by_cases udp : name = str "udp"
  · rw [if_pos udp] at known
    cases known
    exact protocolElement_udp udp here made
  rw [if_neg udp] at known
  by_cases ssh : name = str "ssh"
  · subst ssh
    cases known
    cases made
    exact means_tcp rfl (ranges_one (by decide))
  rw [if_neg ssh] at known
  by_cases rdp : name = str "rdp"
  · subst rdp
    cases known
    cases made
    exact means_tcp rfl (ranges_one (by decide))
  rw [if_neg rdp] at known
  by_cases http : name = str "http"
  · subst http
    cases known
    cases made
    exact means_tcp rfl (ranges_one (by decide))
  rw [if_neg http] at known
  by_cases https : name = str "https"
  · subst https
    cases known
    cases made
    exact means_tcp rfl (ranges_one (by decide))
  rw [if_neg https] at known
  by_cases icmp : name = str "icmp"
  · subst icmp
    cases known
    cases made
    exact means_icmp
  rw [if_neg icmp] at known
  by_cases ftp : name = str "ftp"
  · subst ftp
    cases known
    cases made
    exact means_all (by decide) (by decide) (by decide)
  rw [if_neg ftp] at known
  by_cases dnsUdp : name = str "dns(udp)"
  · subst dnsUdp
    cases known
    cases made
    exact means_udp rfl (ranges_one (by decide))
  rw [if_neg dnsUdp] at known
  by_cases dnsTcp : name = str "dns(tcp)"
  · subst dnsTcp
    cases known
    cases made
    exact means_tcp rfl (ranges_one (by decide))
  rw [if_neg dnsTcp] at known
  cases known

end Elements

section Fields
variable {protocol : NwProtocol} {field : PortField}

/-- A protocol without ports keeps all of its packets, so only the field of
all ports fits it. -/
theorem NwProtocol.fits_whole (keeps : protocol.kept field = some protocol) {payload : Payload}
    (covers : protocol.Covers payload) (portless : ∀ first last, ¬ (PortField.range first last).Covers payload) :
    field = .all ↔ ∃ kept, protocol.kept field = some kept ∧
      ∀ payload, kept.Covers payload ↔ protocol.Covers payload ∧ field.Covers payload := by
  constructor
  · rintro rfl
    exact ⟨protocol, keeps, fun payload => (and_iff_left trivial).symm⟩
  · rintro ⟨kept, same, both⟩
    obtain rfl := Option.some.inj (keeps.symm.trans same)
    cases field with
    | all => rfl
    | range first last => exact absurd ((both payload).mp covers).2 (portless first last)

/-- The ports of `tcp` or `udp` are those of the field. -/
theorem PortField.covers_ports {packet : UInt16 → Payload} {first last : UInt16}
    (field : ∀ port, (PortField.range first last).Covers (packet port) ↔ first ≤ port ∧ port ≤ last)
    (payload : Payload) : (∃ port, payload = packet port ∧ first ≤ port ∧ port ≤ last) ↔
      (∃ port, payload = packet port) ∧ (PortField.range first last).Covers payload := by
  constructor
  · rintro ⟨port, rfl, between⟩
    exact ⟨⟨port, rfl⟩, (field port).mpr between⟩
  · rintro ⟨⟨port, rfl⟩, between⟩
    exact ⟨port, rfl, (field port).mp between⟩

/-- A name that stands for ports keeps them only when it stands for one. -/
theorem NwProtocol.fits_ports {first last : UInt16} {packet : UInt16 → Payload}
    (covers : ∀ payload, protocol.Covers payload ↔ ∃ port, payload = packet port ∧ first ≤ port ∧ port ≤ last)
    (apart : ∀ port, packet port ≠ .other)
    (keeps : protocol.kept field = some (if first = last then protocol else .all)) :
    (first = last ∧ field.Covers (packet first)) ↔ ∃ kept, protocol.kept field = some kept ∧
      ∀ payload, kept.Covers payload ↔ protocol.Covers payload ∧ field.Covers payload := by
  constructor
  · rintro ⟨rfl, inside⟩
    rw [if_pos rfl] at keeps
    refine ⟨protocol, keeps, fun payload => ⟨fun covered => ⟨covered, ?_⟩, And.left⟩⟩
    obtain ⟨port, rfl, low, high⟩ := (covers payload).mp covered
    exact UInt16.le_antisymm low high ▸ inside
  · rintro ⟨kept, same, both⟩
    obtain rfl := Option.some.inj (keeps.symm.trans same)
    by_cases one : first = last
    · rw [if_pos one] at both
      have least := (covers (packet first)).mpr ⟨first, rfl, UInt16.le_refl _, one ▸ UInt16.le_refl _⟩
      exact ⟨one, ((both _).mp least).2⟩
    · rw [if_neg one] at both
      obtain ⟨port, other, _⟩ := (covers .other).mp ((both .other).mp trivial).1
      exact absurd other.symm (apart port)

/-- The rule covers what the two fields do exactly when the field fits the
protocol. -/
theorem NwProtocol.fits_iff : protocol.Fits field ↔ ∃ kept, protocol.kept field = some kept ∧
    ∀ payload, kept.Covers payload ↔ protocol.Covers payload ∧ field.Covers payload := by
  cases protocol with
  | all => exact fits_whole rfl (show NwProtocol.all.Covers .other from trivial) fun _ _ => id
  | icmp => exact fits_whole rfl (show NwProtocol.icmp.Covers .icmp from rfl) fun _ _ => id
  | tcp =>
    cases field with
    | all => exact iff_of_false (fun fits => fits rfl) nofun
    | range first last => exact iff_of_true nofun ⟨_, rfl, PortField.covers_ports fun _ => Iff.rfl⟩
  | udp =>
    cases field with
    | all => exact iff_of_false (fun fits => fits rfl) nofun
    | range first last => exact iff_of_true nofun ⟨_, rfl, PortField.covers_ports fun _ => Iff.rfl⟩
  | tcpPorts first last => exact fits_ports (fun _ => Iff.rfl) nofun rfl
  | udpPorts first last => exact fits_ports (fun _ => Iff.rfl) nofun rfl

/-- A rule that libvirt takes is about some packet. -/
theorem NwProtocol.kept_some {port : Bytes} {kept : NwProtocol} (here : portField port = some field)
    (same : protocol.kept field = some kept) : ∃ payload, kept.Covers payload := by
  cases protocol with
  | all =>
    cases same
    exact ⟨.other, trivial⟩
  | icmp =>
    cases same
    exact ⟨.icmp, rfl⟩
  | tcp =>
    cases field with
    | all => cases same
    | range first last =>
      cases same
      exact ⟨.tcp first, first, rfl, UInt16.le_refl _, (portField_range here).1⟩
  | udp =>
    cases field with
    | all => cases same
    | range first last =>
      cases same
      exact ⟨.udp first, first, rfl, UInt16.le_refl _, (portField_range here).1⟩
  | tcpPorts first last =>
    cases same
    split
    · rename_i one
      exact ⟨.tcp first, first, rfl, UInt16.le_refl _, one ▸ UInt16.le_refl _⟩
    · exact ⟨.other, trivial⟩
  | udpPorts first last =>
    cases same
    split
    · rename_i one
      exact ⟨.udp first, first, rfl, UInt16.le_refl _, one ▸ UInt16.le_refl _⟩
    · exact ⟨.other, trivial⟩

end Fields

theorem exists_inbound {direction : Bytes} (known : direction ∈ directions) :
    ∃ inbound, ∀ payload remote, directionCovers direction ⟨inbound, payload, remote⟩ := by
  rcases List.mem_cons.mp known with rfl | known
  · exact ⟨true, fun _ _ => Or.inr rfl⟩
  rcases List.mem_cons.mp known with rfl | known
  · exact ⟨false, fun _ _ => Or.inr rfl⟩
  · exact ⟨true, fun _ _ => Or.inl (List.mem_singleton.mp known)⟩

/-- The fields of a rule that is the same as an item are the same one by
one, where each packet field has some value. -/
theorem rule_matches_iff {direction : Bytes} {takes covers : Payload → Prop} {near : UInt32 → Prop}
    (known : direction ∈ directions) (some_ : ∃ payload, takes payload) :
    (∀ packet : NwPacket, (directionCovers direction packet ∧ takes packet.payload) ↔
        (directionCovers direction packet ∧ covers packet.payload ∧ near packet.remote)) ↔
      (∀ payload, takes payload ↔ covers payload) ∧ ∀ remote, near remote := by
  obtain ⟨inbound, covered⟩ := exists_inbound known
  constructor
  · intro same
    obtain ⟨first, taken⟩ := some_
    have all : ∀ remote, near remote := fun remote => ((same ⟨inbound, first, remote⟩).mp ⟨covered _ _, taken⟩).2.2
    refine ⟨fun payload => ⟨fun taken => ?_, fun inside => ?_⟩, all⟩
    · exact ((same ⟨inbound, payload, 0⟩).mp ⟨covered _ _, taken⟩).2.1
    · exact ((same ⟨inbound, payload, 0⟩).mpr ⟨covered _ _, inside, all 0⟩).2
  · rintro ⟨same, all⟩ packet
    exact and_congr_right fun _ => (same packet.payload).trans (and_iff_left (all packet.remote)).symm

theorem ruleFunc_eq_some {item : NwItem} {rule : NwRule} : ruleFunc item = some rule ↔
    item.direction ∈ directions ∧ item.action ∈ actions ∧
      ∃ element, protocolElement item.protocol item.port = some element ∧
      rule = ⟨item.action, item.direction, str "500", element⟩ := by
  unfold ruleFunc
  split
  · rename_i unknown
    exact iff_of_false nofun fun made => unknown made.1
  split
  · rename_i unknown
    exact iff_of_false nofun fun made => unknown made.2.1
  · rename_i direction action
    rw [not_not] at direction action
    rw [Option.map_eq_some_iff, and_iff_right direction, and_iff_right action]
    exact exists_congr fun element => and_congr_right fun _ => eq_comm

theorem some_of_cases {α : Type} {P : Prop} [Decidable P] {first second : Option α} (here : ∃ a, first = some a)
    (there : ∃ a, second = some a) : ∃ a, (if P then first else second) = some a := by
  by_cases holds : P
  · rwa [if_pos holds]
  · rwa [if_neg holds]

theorem protocolElement_some {name port : Bytes}
    (parts : name = str "tcp" ∨ name = str "udp" → splitText 45 port ≠ []) :
    ∃ element, protocolElement name port = some element := by
  have service : ∀ e : Option NwElement, ∃ element, some e = some element := fun e => ⟨e, rfl⟩
  unfold protocolElement
  refine some_of_cases (service _) ?_
  by_cases ports : name = str "tcp" ∨ name = str "udp"
  · rw [if_pos ports]
    split
    · rename_i empty
      exact absurd empty (parts ports)
    · exact service _
    · exact service _
  · rw [if_neg ports]
    exact some_of_cases (service _) (some_of_cases (service _) (some_of_cases (service _) (some_of_cases (service _)
      (some_of_cases (service _) (some_of_cases (service _) (some_of_cases (service _) (some_of_cases (service _)
        (service _))))))))

theorem splitText_of_portField {port : Bytes} {field : PortField} (here : portField port = some field) :
    splitText 45 port ≠ [] := by
  cases field with
  | all =>
    rw [portField_all here]
    decide
  | range first last =>
    obtain ⟨_, ⟨_, split, _⟩ | ⟨start, stop, split, _⟩⟩ := portField_range here
    · rw [split]
      exact List.cons_ne_nil _ _
    · rw [split]
      exact List.cons_ne_nil _ _

namespace NwItem
variable {item : NwItem}

/-- There is a rule for an item exactly when it is ruled. -/
theorem ruled_iff : item.Ruled ↔ ∃ rule, ruleFunc item = some rule := by
  constructor
  · rintro ⟨direction, action, parts⟩
    obtain ⟨element, made⟩ := protocolElement_some parts
    exact ⟨_, ruleFunc_eq_some.mpr ⟨direction, action, element, made, rfl⟩⟩
  · rintro ⟨rule, made⟩
    obtain ⟨direction, action, element, given, rfl⟩ := ruleFunc_eq_some.mp made
    refine ⟨direction, action, fun ports empty => ?_⟩
    have apart : item.protocol ≠ str "all" := by
      rcases ports with tcp | udp
      · rw [tcp]
        decide
      · rw [udp]
        decide
    rw [protocolElement, if_neg apart, if_pos ports, empty] at given
    cases given

theorem WellFormed.ruled (wellFormed : item.WellFormed) : item.Ruled := by
  obtain ⟨direction, _, action, port⟩ := wellFormed
  obtain ⟨field, here⟩ := Option.isSome_iff_exists.mp port
  exact ⟨direction, action, fun _ => splitText_of_portField here⟩

theorem covers_iff {protocol : NwProtocol} {field : PortField} (known : nwProtocol item.protocol = some protocol)
    (here : portField item.port = some field) (packet : NwPacket) : item.Covers packet ↔
      directionCovers item.direction packet ∧ (protocol.Covers packet.payload ∧ field.Covers packet.payload) ∧
        cidrCovers item.cidr packet.remote := by
  unfold Covers
  rw [known, here]
  simp only [Option.some.injEq, exists_eq_left', and_assoc]

/-- An item with known fields and the rule for it. -/
theorem matches_iff_covers {protocol kept : NwProtocol} {field : PortField} {element : Option NwElement}
    (direction : item.direction ∈ directions) (known : nwProtocol item.protocol = some protocol)
    (here : portField item.port = some field) (keep : protocol.kept field = some kept)
    (takes : ∀ payload, elementTakes element payload ↔ kept.Covers payload) :
    (∀ packet, NwRule.Matches ⟨item.action, item.direction, str "500", element⟩ packet ↔ item.Covers packet) ↔
      (∀ payload, kept.Covers payload ↔ protocol.Covers payload ∧ field.Covers payload) ∧
        ∃ base, cidrOf item.cidr = some (base, 0) := by
  rw [← cidrCovers_all, ← rule_matches_iff direction (NwProtocol.kept_some here keep)]
  refine forall_congr' fun packet => ?_
  rw [covers_iff known here, NwRule.Matches, takes]

theorem rule_sound_iff {rule : NwRule} (made : ruleFunc item = some rule) :
    (item.WellFormed ∧ rule.Valid ∧ rule.action = item.action ∧
      ∀ packet, rule.Matches packet ↔ item.Covers packet) ↔ item.Plain := by
  obtain ⟨direction, action, element, given, rfl⟩ := ruleFunc_eq_some.mp made
  constructor
  · rintro ⟨⟨_, protocol, _, port⟩, valid, _, same⟩
    obtain ⟨protocol, known⟩ := Option.isSome_iff_exists.mp protocol
    obtain ⟨field, here⟩ := Option.isSome_iff_exists.mp port
    have means := protocolElement_means known here given
    obtain ⟨kept, keep⟩ := Option.isSome_iff_exists.mp (means.1.mp valid)
    obtain ⟨covers, base, all⟩ := (matches_iff_covers direction known here keep (means.2 kept keep)).mp same
    exact ⟨protocol, field, base, known, here, NwProtocol.fits_iff.mpr ⟨kept, keep, covers⟩, all⟩
  · rintro ⟨protocol, field, base, known, here, fits, all⟩
    have means := protocolElement_means known here given
    obtain ⟨kept, keep, covers⟩ := NwProtocol.fits_iff.mp fits
    have wellFormed : item.WellFormed :=
      ⟨direction, Option.isSome_iff_exists.mpr ⟨_, known⟩, action, Option.isSome_iff_exists.mpr ⟨_, here⟩⟩
    have valid := means.1.mpr (Option.isSome_iff_exists.mpr ⟨_, keep⟩)
    exact ⟨wellFormed, valid, rfl, (matches_iff_covers direction known here keep (means.2 kept keep)).mpr
      ⟨covers, base, all⟩⟩

theorem nwProtocol_all {name : Bytes} (known : nwProtocol name = some .all) : name = str "all" := by
  unfold nwProtocol at known
  split at known
  · assumption
  · repeat' split at known
    all_goals cases known

theorem other_covered {protocol : NwProtocol} (covers : protocol.Covers .other) : protocol = .all := by
  cases protocol with
  | all => rfl
  | icmp => cases covers
  | tcp =>
    obtain ⟨_, wrong⟩ := covers
    cases wrong
  | udp =>
    obtain ⟨_, wrong⟩ := covers
    cases wrong
  | tcpPorts first last =>
    obtain ⟨_, wrong, _⟩ := covers
    cases wrong
  | udpPorts first last =>
    obtain ⟨_, wrong, _⟩ := covers
    cases wrong

theorem means_everything (payload : Payload) : NwElement.Matches ⟨str "all", none, none⟩ payload := by
  rw [NwElement.Matches, if_neg (by decide), if_neg (by decide), if_neg (by decide)]
  trivial

/-- A rule is about all packets where its item names no protocol, port or
address. -/
theorem everything_iff {rule : NwRule} (made : ruleFunc item = some rule) (plain : item.Plain) :
    rule.Everything ↔ item.protocol = str "all" := by
  obtain ⟨direction, action, element, given, rfl⟩ := ruleFunc_eq_some.mp made
  obtain ⟨protocol, field, base, known, here, fits, all⟩ := plain
  obtain ⟨kept, keep, covers⟩ := NwProtocol.fits_iff.mp fits
  have takes := (protocolElement_means known here given).2 kept keep
  constructor
  · intro everything
    obtain ⟨inbound, covered⟩ := exists_inbound direction
    have other := (takes .other).mp (everything ⟨inbound, .other, 0⟩ (covered _ _)).2
    rw [covers .other] at other
    exact nwProtocol_all (other_covered other.1 ▸ known)
  · intro named packet covered
    refine ⟨covered, ?_⟩
    rw [named] at given
    cases given
    exact elementTakes_some.mpr (means_everything packet.payload)

theorem rule_rank {rule : NwRule} (made : ruleFunc item = some rule) (plain : item.Plain) :
    rule.rank = item.rank := by
  have everything := everything_iff made plain
  obtain ⟨_, _, _, _, rfl⟩ := ruleFunc_eq_some.mp made
  simp only [NwRule.rank, rank, everything]

end NwItem

/-- Rules of items that are written with `all` and `0.0.0.0/0` are about
everything. -/
theorem isAll_rank {item : NwItem} {rule : NwRule} (made : ruleFunc item = some rule) (all : item.isAll = true) :
    rule.rank = if item.action = str "drop" then 2 else 1 := by
  obtain ⟨_, _, element, given, rfl⟩ := ruleFunc_eq_some.mp made
  obtain ⟨named, _⟩ := of_decide_eq_true all
  rw [named] at given
  cases given
  have everything : NwRule.Everything ⟨item.action, item.direction, str "500", some ⟨str "all", none, none⟩⟩ :=
    fun packet covered => ⟨covered, elementTakes_some.mpr (NwItem.means_everything packet.payload)⟩
  rw [NwRule.rank, if_pos everything]

section Texts
variable {text : Bytes}

theorem nwItem_of_fields {item : NwItem} (fields : nwFields text = some item) : nwItem text = some item := by
  unfold nwFields at fields
  split at fields
  · rename_i direction protocol port cidr action parts
    split at fields
    · cases fields
    · rename_i filled
      cases fields
      have kept : splitText 44 text = [direction, protocol, port, cidr, action] := by
        rw [splitText, parts, List.filter_eq_self]
        intro part member
        exact decide_eq_true fun empty => filled (empty ▸ member)
      rw [nwItem, kept]
  · cases fields

/-- A text is translated as it should be exactly when, if it gets a rule,
its parts are its fields and make a plain item. -/
theorem textSound_iff : TextSound text ↔
    ∀ item, nwItem text = some item → item.Ruled → nwFields text = some item ∧ item.Plain := by
  rw [TextSound, nwRule]
  cases parts : nwItem text with
  | none =>
    refine iff_of_true (fun item fields => ?_) nofun
    rw [nwItem_of_fields fields] at parts
    cases parts
  | some item =>
    rw [Option.bind_some]
    have same : ∀ other, nwFields text = some other → other = item := fun other fields =>
      Option.some.inj ((nwItem_of_fields fields).symm.trans parts)
    cases made : ruleFunc item with
    | none =>
      have unruled : ¬ item.Ruled := fun ruled => by
        obtain ⟨rule, some_⟩ := NwItem.ruled_iff.mp ruled
        rw [made] at some_
        cases some_
      refine iff_of_true (fun other fields wellFormed => ?_) fun other known ruled => ?_
      · exact unruled (same other fields ▸ wellFormed).ruled
      · cases known
        exact absurd ruled unruled
    | some rule =>
      have ruled : item.Ruled := NwItem.ruled_iff.mpr ⟨rule, made⟩
      constructor
      · rintro ⟨other, fields, sound⟩ _ known _
        cases known
        obtain rfl := same other fields
        exact ⟨fields, (NwItem.rule_sound_iff made).mp sound⟩
      · intro plain
        obtain ⟨fields, plain⟩ := plain item rfl ruled
        exact ⟨item, fields, (NwItem.rule_sound_iff made).mpr plain⟩

end Texts

section Order
variable {nwfilters : List Bytes} {name uuid : Bytes}

/-- The items behind the rules, in the order of the rules. -/
def placed (items : List NwItem) : List NwItem :=
  (items.filter fun item => ¬ item.isAll) ++
    ((items.filter fun item => item.isAll ∧ item.action = str "accept").reverse ++
      items.filter fun item => item.isAll ∧ item.action = str "drop")

theorem rules_eq :
    (createNWFilterXml name uuid nwfilters).rules = (placed (nwItems nwfilters)).filterMap ruleFunc := by
  rw [createNWFilterXml, foldl_sortItem, placed]
  simp

theorem made_eq : nwfilters.filterMap nwRule = (nwItems nwfilters).filterMap ruleFunc := by
  rw [nwItems, List.filterMap_filterMap]
  rfl

theorem isAll_action {item : NwItem} {rule : NwRule} (made : ruleFunc item = some rule) :
    item.action = str "accept" ∨ item.action = str "drop" := by
  have known := (ruleFunc_eq_some.mp made).2.1
  simpa [actions] using known

/-- Sorting keeps all rules. -/
theorem placed_perm (items : List NwItem) :
    ((placed items).filterMap ruleFunc).Perm (items.filterMap ruleFunc) := by
  induction items with
  | nil => exact List.Perm.refl _
  | cons item rest ih =>
    rw [placed] at ih ⊢
    have apart : str "accept" ≠ str "drop" := by decide
    cases made : ruleFunc item with
    | none =>
      cases all : item.isAll with
      | false => simpa [all, made] using ih
      | true =>
        by_cases accept : item.action = str "accept"
        · simpa [all, made, accept, apart] using ih
        · by_cases drop : item.action = str "drop"
          · simpa [all, made, drop, apart.symm] using ih
          · simpa [all, made, accept, drop] using ih
    | some rule =>
      cases all : item.isAll with
      | false => simpa [all, made] using ih.cons rule
      | true =>
        rcases isAll_action made with accept | drop
        · simp only [List.filterMap_append, List.filterMap_reverse] at ih
          simp only [List.filter_cons, all, accept, apart, not_true_eq_false, decide_false, decide_true,
            and_true, and_false,
            if_true, if_false, Bool.false_eq_true, List.reverse_cons, List.filterMap_append, List.filterMap_reverse,
            List.filterMap_cons_some made, List.append_assoc, List.singleton_append]
          rw [← List.append_assoc]
          refine List.perm_middle.trans ?_
          rw [List.append_assoc]
          exact ih.cons rule
        · simp only [List.filterMap_append, List.filterMap_reverse] at ih
          simp only [List.filter_cons, all, drop, apart.symm, not_true_eq_false, decide_false,
            decide_true, and_true,
            and_false, if_true, if_false, Bool.false_eq_true, List.filterMap_append, List.filterMap_reverse,
            List.filterMap_cons_some made]
          rw [← List.append_assoc]
          refine List.perm_middle.trans ?_
          rw [List.append_assoc]
          exact ih.cons rule

/-- Specific rules keep their order, since what is sorted behind them is
about everything. -/
theorem placed_specifics (items : List NwItem) :
    ((placed items).filterMap ruleFunc).filter (·.rank = 0) = (items.filterMap ruleFunc).filter (·.rank = 0) := by
  have everything : ∀ listed : List NwItem, (∀ item ∈ listed, item.isAll = true) →
      (listed.filterMap ruleFunc).filter (·.rank = 0) = [] := by
    intro listed all
    rw [List.filter_eq_nil_iff]
    intro rule member
    obtain ⟨item, among, made⟩ := List.mem_filterMap.mp member
    rw [isAll_rank made (all item among)]
    split
    · simp
    · simp
  have accepts := everything (items.filter fun item => item.isAll ∧ item.action = str "accept").reverse
    fun item member => (of_decide_eq_true (List.mem_filter.mp (List.mem_reverse.mp member)).2).1
  have drops := everything (items.filter fun item => item.isAll ∧ item.action = str "drop")
    fun item member => (of_decide_eq_true (List.mem_filter.mp member).2).1
  rw [placed, List.filterMap_append, List.filterMap_append, List.filter_append, List.filter_append, accepts, drops,
    List.append_nil, List.append_nil]
  clear everything accepts drops
  induction items with
  | nil => rfl
  | cons item rest ih =>
    cases all : item.isAll with
    | false =>
      cases made : ruleFunc item with
      | none => simpa [all, made] using ih
      | some rule =>
        by_cases zero : rule.rank = 0
        · simpa [all, made, zero] using ih
        · simpa [all, made, zero] using ih
    | true =>
      cases made : ruleFunc item with
      | none => simpa [all, made] using ih
      | some rule =>
        have rank := isAll_rank made all
        have positive : rule.rank ≠ 0 := by
          rw [rank]
          split
          · decide
          · decide
        simpa [all, made, positive] using ih

theorem mem_placed {items : List NwItem} {item : NwItem} (member : item ∈ placed items) : item ∈ items := by
  rw [placed, List.mem_append, List.mem_append, List.mem_reverse] at member
  rcases member with specific | accept | drop
  · exact (List.mem_filter.mp specific).1
  · exact (List.mem_filter.mp accept).1
  · exact (List.mem_filter.mp drop).1

theorem NwItem.rank_le (item : NwItem) : item.rank ≤ 2 := by
  rw [NwItem.rank]
  split
  · split
    · decide
    · decide
  · decide

theorem NwItem.isAll_rank {item : NwItem} (all : item.isAll = true) :
    item.rank = if item.action = str "drop" then 2 else 1 := by
  rw [NwItem.rank, if_pos (of_decide_eq_true all).1]

/-- Two items of the order are in the order of their rules when they are in
that of their own ranks. -/
theorem placed_related {items : List NwItem} (plain : ∀ item ∈ items, item.Ruled → item.Plain) {a b : NwItem}
    (first : a ∈ placed items) (second : b ∈ placed items) :
    (∀ rule, ruleFunc a = some rule → ∀ rule', ruleFunc b = some rule' → rule.rank ≤ rule'.rank) ↔
      (a.Ruled → b.Ruled → a.rank ≤ b.rank) := by
  have ranks : ∀ item ∈ items, ∀ rule, ruleFunc item = some rule → rule.rank = item.rank :=
    fun item member rule made => NwItem.rule_rank made (plain item member (NwItem.ruled_iff.mpr ⟨rule, made⟩))
  constructor
  · intro le ruled ruled'
    obtain ⟨rule, made⟩ := NwItem.ruled_iff.mp ruled
    obtain ⟨rule', made'⟩ := NwItem.ruled_iff.mp ruled'
    rw [← ranks a (mem_placed first) rule made, ← ranks b (mem_placed second) rule' made']
    exact le rule made rule' made'
  · intro le rule made rule' made'
    rw [ranks a (mem_placed first) rule made, ranks b (mem_placed second) rule' made']
    exact le (NwItem.ruled_iff.mpr ⟨rule, made⟩) (NwItem.ruled_iff.mpr ⟨rule', made'⟩)

theorem accepting_rank {items : List NwItem} {item : NwItem}
    (member : item ∈ items.filter fun item => item.isAll ∧ item.action = str "accept") : item.rank = 1 := by
  obtain ⟨all, accept⟩ := of_decide_eq_true (List.mem_filter.mp member).2
  have apart : str "accept" ≠ str "drop" := by decide
  rw [NwItem.isAll_rank all, accept, if_neg apart]

theorem dropping_rank {items : List NwItem} {item : NwItem}
    (member : item ∈ items.filter fun item => item.isAll ∧ item.action = str "drop") : item.rank = 2 := by
  obtain ⟨all, drop⟩ := of_decide_eq_true (List.mem_filter.mp member).2
  rw [NwItem.isAll_rank all, drop, if_pos rfl]

/-- The ranks do not fall from one item of the order to a later one. -/
abbrev NwItem.Rises (a b : NwItem) : Prop := a.Ruled → b.Ruled → a.rank ≤ b.rank

theorem InPlace.of_rises {items : List NwItem} (rises : (placed items).Pairwise NwItem.Rises) : InPlace items := by
  rw [placed, List.pairwise_append] at rises
  obtain ⟨specifics, _, across⟩ := rises
  refine ⟨?_, fun a first b second ruled odd rank all ruled' accept => ?_⟩
  · have both : (items.filter fun item => item.Ruled ∧ ¬ item.isAll) =
        (items.filter fun item => ¬ item.isAll).filter fun item => item.Ruled := by
      rw [List.filter_filter]
      refine List.filter_congr fun item _ => ?_
      simp
    rw [both, List.pairwise_filter]
    exact specifics.imp fun le ruled ruled' => le (of_decide_eq_true ruled) (of_decide_eq_true ruled')
  · have among : a ∈ items.filter fun item => ¬ item.isAll := List.mem_filter.mpr ⟨first, by simp [odd]⟩
    have behind : b ∈ items.filter fun item => item.isAll ∧ item.action = str "accept" :=
      List.mem_filter.mpr ⟨second, by simp [all, accept]⟩
    have le := across a among b (List.mem_append_left _ (List.mem_reverse.mpr behind)) ruled ruled'
    rw [rank, accepting_rank behind] at le
    omega

theorem InPlace.rises {items : List NwItem} (inPlace : InPlace items) : (placed items).Pairwise NwItem.Rises := by
  rw [placed, List.pairwise_append, List.pairwise_append]
  refine ⟨?_, ⟨?_, ?_, ?_⟩, ?_⟩
  · have later := inPlace.later
    rw [List.pairwise_filter] at later
    rw [List.pairwise_filter]
    refine later.imp fun le odd odd' ruled ruled' => le ?_ ?_
    · simpa [ruled] using odd
    · simpa [ruled'] using odd'
  · refine List.pairwise_of_forall_mem_list fun a first b second _ _ => ?_
    rw [accepting_rank (List.mem_reverse.mp first), accepting_rank (List.mem_reverse.mp second)]
  · refine List.pairwise_of_forall_mem_list fun a first b second _ _ => ?_
    rw [dropping_rank first, dropping_rank second]
  · intro a first b second _ _
    rw [accepting_rank (List.mem_reverse.mp first), dropping_rank second]
    decide
  · intro a first b second ruled ruled'
    obtain ⟨among, odd⟩ := List.mem_filter.mp first
    rcases List.mem_append.mp second with accept | drop
    · have behind := List.mem_reverse.mp accept
      obtain ⟨listed, written⟩ := List.mem_filter.mp behind
      obtain ⟨all, action⟩ := of_decide_eq_true written
      have low : a.rank ≠ 2 :=
        fun rank => inPlace.accepts a among b listed ruled (by simpa using odd) rank all ruled' action
      have bound := a.rank_le
      rw [accepting_rank behind]
      omega
    · rw [dropping_rank drop]
      exact a.rank_le

/-- The rules of plain items are in order exactly when the items are in
place. -/
theorem placed_ordered {items : List NwItem} (plain : ∀ item ∈ items, item.Ruled → item.Plain) :
    ((placed items).filterMap ruleFunc).Pairwise (fun a b => a.rank ≤ b.rank) ↔ InPlace items := by
  rw [List.pairwise_filterMap, List.Pairwise.iff_of_mem (placed_related plain)]
  exact ⟨InPlace.of_rises, InPlace.rises⟩

end Order

/-- The rules of a filter are those that its texts ask for exactly when each
text that gets a rule has five parts that make a plain item, with no part
that is empty, and the items about everything are in place. -/
theorem filters_sound_iff (name uuid : Bytes) (nwfilters : List Bytes) :
    FilterSound nwfilters (createNWFilterXml name uuid nwfilters).rules ↔
      (∀ text ∈ nwfilters, ∀ item, nwItem text = some item → item.Ruled → nwFields text = some item ∧ item.Plain) ∧
        InPlace (nwItems nwfilters) := by
  have ordered : (∀ text ∈ nwfilters, ∀ item, nwItem text = some item → item.Ruled →
      nwFields text = some item ∧ item.Plain) → ((createNWFilterXml name uuid nwfilters).rules.Pairwise
        (fun a b => a.rank ≤ b.rank) ↔ InPlace (nwItems nwfilters)) := by
    intro plain
    rw [rules_eq]
    refine placed_ordered fun item member ruled => ?_
    obtain ⟨text, listed, parts⟩ := List.mem_filterMap.mp member
    exact (plain text listed item parts ruled).2
  constructor
  · intro sound
    have plain := fun text listed => textSound_iff.mp (sound.texts text listed)
    exact ⟨plain, (ordered plain).mp sound.order⟩
  · rintro ⟨plain, inPlace⟩
    refine ⟨fun text listed => textSound_iff.mpr (plain text listed), ?_, (ordered plain).mpr inPlace, ?_⟩
    · rw [rules_eq, made_eq]
      exact placed_perm _
    · rw [rules_eq, made_eq]
      exact placed_specifics _

/-- The rule for an item about the addresses of one prefix is about all
addresses. -/
theorem prefix_dropped : ¬ FilterSound [str "in,tcp,22,10.0.0.0/8,accept"]
    (createNWFilterXml (str "f") [] [str "in,tcp,22,10.0.0.0/8,accept"]).rules := by
  intro sound
  have text := sound.texts _ List.mem_cons_self
  have made : nwRule (str "in,tcp,22,10.0.0.0/8,accept") =
      some ⟨str "accept", str "in", str "500", some ⟨str "tcp", some (str "22"), none⟩⟩ := by decide +kernel
  have fields : nwFields (str "in,tcp,22,10.0.0.0/8,accept") =
      some ⟨str "in", str "tcp", str "22", str "10.0.0.0/8", str "accept"⟩ := by decide +kernel
  rw [TextSound, made] at text
  obtain ⟨item, same, _, _, _, covers⟩ := text
  obtain rfl := Option.some.inj (fields.symm.trans same)
  have number : portNumber (str "22") = some 22 := by decide
  have allowed : NwElement.Allows ⟨str "tcp", some (str "22"), none⟩ 22 :=
    (allows_one number).mpr ⟨by decide, by decide⟩
  obtain ⟨_, _, _, base, length, known, near⟩ :=
    (covers ⟨true, .tcp 22, 0⟩).mp ⟨Or.inr rfl, elementTakes_some.mpr ⟨22, rfl, allowed⟩⟩
  rw [show cidrOf (str "10.0.0.0/8") = some (167772160, 8) by decide +kernel] at known
  cases known
  exact absurd near (by decide)

end DbcNode
