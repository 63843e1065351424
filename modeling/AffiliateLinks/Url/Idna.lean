import AffiliateLinks.Text.Composition
import AffiliateLinks.Text.Numeral
import AffiliateLinks.Text.Utf8
import AffiliateLinks.Url.Idna.Mapping
import AffiliateLinks.Url.Punycode

/-!
# Hosts in ASCII

A host name is mapped, composed, cut into labels, and each label that is not ASCII is written in
Punycode after `xn--`. A label that is written so already has to stand for a label that could have
been the host's own.

A zero-width joiner may stand in a label only after a virama. A zero-width non-joiner may also stand
between two letters of a cursive script that would join across it. A host with a right-to-left
character has to keep each label readable in its own direction: a label begins with a letter of its
direction, holds nothing of the other one, and ends well.
-/

namespace AffiliateLinks.Idna

/-- Joining types: left-joining, right-joining, dual-joining, transparent. -/
def joiningRuns : Array Table.Row := Table.rows "
300-36F=T 483-489=T 591-5BD=T 5BF=T 5C1-5C2=T 5C4-5C5=T 5C7=T 610-61A=T 620=D 622-625=R 626=D
627=R 628=D 629=R 62A-62E=D 62F-632=R 633-63F=D 641-647=D 648=R 649-64A=D 64B-65F=T 66E-66F=D
670=T 671-673=R 679-687=D 688-699=R 69A-6BF=D 6C0=R 6C1-6C2=D 6C3-6CB=R 6CC=D 6CD=R 6CE=D 6CF=R
6D0-6D1=D 6D2-6D3=R 6D5=R 6D6-6DC=T 6DF-6E4=T 6E7-6E8=T 6EA-6ED=T 6EE-6EF=R 6FA-6FC=D 6FF=D
710=R 711=T 712-714=D 715-719=R 71A-71D=D 71E=R 71F-727=D 728=R 729=D 72A=R 72B=D 72C=R
72D-72E=D 72F=R 730-74A=T 74D=R 74E-758=D 759-75B=R 75C-76A=D 76B-76C=R 76D-770=D 771=R 772=D
773-774=R 775-777=D 778-779=R 77A-77F=D 7A6-7B0=T 7CA-7EA=D 7EB-7F3=T 7FD=T 816-819=T 81B-823=T
825-827=T 829-82D=T 840=R 841-845=D 846-847=R 848=D 849=R 84A-853=D 854=R 855=D 856-858=R
859-85B=T 860=D 862-865=D 867=R 868=D 869-882=R 886=D 889-88D=D 88E=R 88F=D 897-89F=T 8A0-8A9=D
8AA-8AC=R 8AE=R 8AF-8B0=D 8B1-8B2=R 8B3-8B8=D 8B9=R 8BA-8C8=D 8CA-902=T 93A=T 93C=T 941-948=T
94D=T 951-957=T 962-963=T 981=T 9BC=T 9C1-9C4=T 9CD=T 9E2-9E3=T 9FE-A02=T A3C=T A41-A51=T
A70-A71=T A75=T A81-A82=T ABC=T AC1-AC8=T ACD=T AE2-AE3=T AFA-B01=T B3C=T B3F=T B41-B44=T
B4D-B56=T B62-B63=T B82=T BC0=T BCD=T C00=T C04=T C3C=T C3E-C40=T C46-C56=T C62-C63=T C81=T
CBC=T CBF=T CC6=T CCC-CCD=T CE2-CE3=T D00-D01=T D3B-D3C=T D41-D44=T D4D=T D62-D63=T D81=T DCA=T
DD2-DD6=T E31=T E34-E3A=T E47-E4E=T EB1=T EB4-EBC=T EC8-ECE=T F18-F19=T F35=T F37=T F39=T
F71-F7E=T F80-F84=T F86-F87=T F8D-FBC=T FC6=T 102D-1030=T 1032-1037=T 1039-103A=T 103D-103E=T
1058-1059=T 105E-1060=T 1071-1074=T 1082=T 1085-1086=T 108D=T 109D=T 135D-135F=T 1712-1714=T
1732-1733=T 1752-1753=T 1772-1773=T 17B7-17BD=T 17C6=T 17C9-17D3=T 17DD=T 1807=D 1820-1878=D
1885-1886=T 1887-18A8=D 18A9=T 18AA=D 1920-1922=T 1927-1928=T 1932=T 1939-193B=T 1A17-1A18=T
1A1B=T 1A56=T 1A58-1A60=T 1A62=T 1A65-1A6C=T 1A73-1A7F=T 1AB0-1B03=T 1B34=T 1B36-1B3A=T 1B3C=T
1B42=T 1B6B-1B73=T 1B80-1B81=T 1BA2-1BA5=T 1BA8-1BA9=T 1BAB-1BAD=T 1BE6=T 1BE8-1BE9=T 1BED=T
1BEF-1BF1=T 1C2C-1C33=T 1C36-1C37=T 1CD0-1CD2=T 1CD4-1CE0=T 1CE2-1CE8=T 1CED=T 1CF4=T
1CF8-1CF9=T 1DC0-1DFF=T 20D0-20F0=T 2CEF-2CF1=T 2D7F=T 2DE0-2DFF=T 302A-302D=T 3099-309A=T
A66F-A672=T A674-A67D=T A69E-A69F=T A6F0-A6F1=T A802=T A806=T A80B=T A825-A826=T A82C=T
A840-A871=D A872=L A8C4-A8C5=T A8E0-A8F1=T A8FF=T A926-A92D=T A947-A951=T A980-A982=T A9B3=T
A9B6-A9B9=T A9BC-A9BD=T A9E5=T AA29-AA2E=T AA31-AA32=T AA35-AA36=T AA43=T AA4C=T AA7C=T AAB0=T
AAB2-AAB4=T AAB7-AAB8=T AABE-AABF=T AAC1=T AAEC-AAED=T AAF6=T ABE5=T ABE8=T ABED=T FB1E=T
FE20-FE2F=T 101FD=T 102E0=T 10376-1037A=T 10A01-10A0F=T 10A38-10A3F=T 10AC0-10AC4=D 10AC5=R
10AC7=R 10AC9-10ACA=R 10ACD=L 10ACE-10AD2=R 10AD3-10AD6=D 10AD7=L 10AD8-10ADC=D 10ADD=R
10ADE-10AE0=D 10AE1=R 10AE4=R 10AE5-10AE6=T 10AEB-10AEE=D 10AEF=R 10B80=D 10B81=R 10B82=D
10B83-10B85=R 10B86-10B88=D 10B89=R 10B8A-10B8B=D 10B8C=R 10B8D=D 10B8E-10B8F=R 10B90=D 10B91=R
10BA9-10BAC=R 10BAD-10BAE=D 10D00=L 10D01-10D21=D 10D22=R 10D23=D 10D24-10D27=T 10D69-10D6D=T
10EAB-10EAC=T 10EC2=R 10EC3-10EC4=D 10EC6-10EC7=D 10EFA-10EFF=T 10F30-10F32=D 10F33=R
10F34-10F44=D 10F46-10F50=T 10F51-10F53=D 10F54=R 10F70-10F73=D 10F74-10F75=R 10F76-10F81=D
10F82-10F85=T 10FB0=D 10FB2-10FB3=D 10FB4-10FB6=R 10FB8=D 10FB9-10FBA=R 10FBB-10FBC=D 10FBD=R
10FBE-10FBF=D 10FC1=D 10FC2-10FC3=R 10FC4=D 10FC9=R 10FCA=D 10FCB=L 11001=T 11038-11046=T
11070=T 11073-11074=T 1107F-11081=T 110B3-110B6=T 110B9-110BA=T 110C2=T 11100-11102=T
11127-1112B=T 1112D-11134=T 11173=T 11180-11181=T 111B6-111BE=T 111C9-111CC=T 111CF=T
1122F-11231=T 11234=T 11236-11237=T 1123E=T 11241=T 112DF=T 112E3-112EA=T 11300-11301=T
1133B-1133C=T 11340=T 11366-11374=T 113BB-113C0=T 113CE=T 113D0=T 113D2=T 113E1-113E2=T
11438-1143F=T 11442-11444=T 11446=T 1145E=T 114B3-114B8=T 114BA=T 114BF-114C0=T 114C2-114C3=T
115B2-115B5=T 115BC-115BD=T 115BF-115C0=T 115DC-115DD=T 11633-1163A=T 1163D=T 1163F-11640=T
116AB=T 116AD=T 116B0-116B5=T 116B7=T 1171D=T 1171F=T 11722-11725=T 11727-1172B=T 1182F-11837=T
11839-1183A=T 1193B-1193C=T 1193E=T 11943=T 119D4-119DB=T 119E0=T 11A01-11A0A=T 11A33-11A38=T
11A3B-11A3E=T 11A47=T 11A51-11A56=T 11A59-11A5B=T 11A8A-11A96=T 11A98-11A99=T 11B60=T
11B62-11B64=T 11B66=T 11C30-11C3D=T 11C3F=T 11C92-11CA7=T 11CAA-11CB0=T 11CB2-11CB3=T
11CB5-11CB6=T 11D31-11D45=T 11D47=T 11D90-11D91=T 11D95=T 11D97=T 11EF3-11EF4=T 11F00-11F01=T
11F36-11F3A=T 11F40=T 11F42=T 11F5A=T 13440=T 13447-13455=T 1611E-16129=T 1612D-1612F=T
16AF0-16AF4=T 16B30-16B36=T 16F4F=T 16F8F-16F92=T 16FE4=T 1BC9D-1BC9E=T 1CF00-1CF46=T
1D167-1D169=T 1D17B-1D182=T 1D185-1D18B=T 1D1AA-1D1AD=T 1D242-1D244=T 1DA00-1DA36=T
1DA3B-1DA6C=T 1DA75=T 1DA84=T 1DA9B-1DAAF=T 1E000-1E08F=T 1E130-1E136=T 1E2AE=T 1E2EC-1E2EF=T
1E4EC-1E4EF=T 1E5EE-1E5EF=T 1E6E3=T 1E6E6=T 1E6EE-1E6EF=T 1E6F5=T 1E8D0-1E8D6=T 1E922-1E943=D
1E944-1E94B=T
"

def joining? (c : Char) : Option Char := (Table.find? joiningRuns c.toNat).bind fun r => r.value.head?

def isVirama (c : Char) : Bool := Composition.combiningClass c = 9

/-- The nearest character that is not transparent has one of the types. -/
def meets (types : Text) (t : Text) : Bool :=
  match t.dropWhile fun c => joining? c = some 'T' with
  | c :: _ => (joining? c).any types.contains
  | [] => false

/-- Checks the joiners of a label; `seen` holds, reversed, what stands before the rest. -/
def joinersAllowed (seen : Text) : Text → Bool
  | [] => true
  | c :: cs =>
    (if c = '\u200D' then seen.head?.any isVirama
     else if c = '\u200C' then
       seen.head?.any isVirama || (meets ['L', 'D'] seen && meets ['R', 'D'] cs)
     else true) && joinersAllowed (c :: seen) cs

/-- Bidirectional classes other than left-to-right. -/
def directionRuns : Array Table.Row := Table.rows "
A1=ON A2-A5=ET A6-AE=ON B0-B1=ET B6-D7=ON F7=ON 2B9-2BA=ON 2C2-2CF=ON 2D2-2ED=ON 2EF-2FF=ON
300-36F=NSM 375=ON 3F6=ON 483-489=NSM 58A-58E=ON 58F=ET 591-5BD=NSM 5BE=R 5BF=NSM 5C0=R
5C1-5C2=NSM 5C3=R 5C4-5C5=NSM 5C6=R 5C7=NSM 5D0-5F4=R 606-607=ON 608=AL 609-60A=ET 60B=AL 60C=CS
60D=AL 60E-60F=ON 610-61A=NSM 61B-64A=AL 64B-65F=NSM 660-669=AN 66A=ET 66B-66C=AN 66D-66F=AL
670=NSM 671-6D5=AL 6D6-6DC=NSM 6DE=ON 6DF-6E4=NSM 6E5-6E6=AL 6E7-6E8=NSM 6E9=ON 6EA-6ED=NSM
6EE-6EF=AL 6F0-6F9=EN 6FA-710=AL 711=NSM 712-72F=AL 730-74A=NSM 74D-7A5=AL 7A6-7B0=NSM 7B1=AL
7C0-7EA=R 7EB-7F3=NSM 7F4-7F5=R 7F6-7F9=ON 7FA=R 7FD=NSM 7FE-815=R 816-819=NSM 81A=R 81B-823=NSM
824=R 825-827=NSM 828=R 829-82D=NSM 830-858=R 859-85B=NSM 85E=R 860-88F=AL 897-89F=NSM
8A0-8C9=AL 8CA-902=NSM 93A=NSM 93C=NSM 941-948=NSM 94D=NSM 951-957=NSM 962-963=NSM 981=NSM
9BC=NSM 9C1-9C4=NSM 9CD=NSM 9E2-9E3=NSM 9F2-9F3=ET 9FB=ET 9FE-A02=NSM A3C=NSM A41-A51=NSM
A70-A71=NSM A75=NSM A81-A82=NSM ABC=NSM AC1-AC8=NSM ACD=NSM AE2-AE3=NSM AF1=ET AFA-B01=NSM
B3C=NSM B3F=NSM B41-B44=NSM B4D-B56=NSM B62-B63=NSM B82=NSM BC0=NSM BCD=NSM BF3-BF8=ON BF9=ET
BFA=ON C00=NSM C04=NSM C3C=NSM C3E-C40=NSM C46-C56=NSM C62-C63=NSM C78-C7E=ON C81=NSM CBC=NSM
CBF=NSM CC6=NSM CCC-CCD=NSM CE2-CE3=NSM D00-D01=NSM D3B-D3C=NSM D41-D44=NSM D4D=NSM D62-D63=NSM
D81=NSM DCA=NSM DD2-DD6=NSM E31=NSM E34-E3A=NSM E3F=ET E47-E4E=NSM EB1=NSM EB4-EBC=NSM
EC8-ECE=NSM F18-F19=NSM F35=NSM F37=NSM F39=NSM F3A-F3D=ON F71-F7E=NSM F80-F84=NSM F86-F87=NSM
F8D-FBC=NSM FC6=NSM 102D-1030=NSM 1032-1037=NSM 1039-103A=NSM 103D-103E=NSM 1058-1059=NSM
105E-1060=NSM 1071-1074=NSM 1082=NSM 1085-1086=NSM 108D=NSM 109D=NSM 135D-135F=NSM 1390-1399=ON
1400=ON 169B-169C=ON 1712-1714=NSM 1732-1733=NSM 1752-1753=NSM 1772-1773=NSM 17B7-17BD=NSM
17C6=NSM 17C9-17D3=NSM 17DB=ET 17DD=NSM 17F0-180A=ON 1885-1886=NSM 18A9=NSM 1920-1922=NSM
1927-1928=NSM 1932=NSM 1939-193B=NSM 1940-1945=ON 19DE-19FF=ON 1A17-1A18=NSM 1A1B=NSM 1A56=NSM
1A58-1A60=NSM 1A62=NSM 1A65-1A6C=NSM 1A73-1A7F=NSM 1AB0-1B03=NSM 1B34=NSM 1B36-1B3A=NSM 1B3C=NSM
1B42=NSM 1B6B-1B73=NSM 1B80-1B81=NSM 1BA2-1BA5=NSM 1BA8-1BA9=NSM 1BAB-1BAD=NSM 1BE6=NSM
1BE8-1BE9=NSM 1BED=NSM 1BEF-1BF1=NSM 1C2C-1C33=NSM 1C36-1C37=NSM 1CD0-1CD2=NSM 1CD4-1CE0=NSM
1CE2-1CE8=NSM 1CED=NSM 1CF4=NSM 1CF8-1CF9=NSM 1DC0-1DFF=NSM 200C-200D=BN 2010-2027=ON
2030-2032=ET 2035-2043=ON 2044=CS 2045-205E=ON 20A0-20C1=ET 20D0-20F0=NSM 2104-2129=ON 212E=ET
213A-214D=ON 218A-2211=ON 2212=ES 2213=ET 2214-2335=ON 237B-2394=ON 2396-2426=ON 2440-26AB=ON
26AD-27FF=ON 2900-2B95=ON 2B97-2BFF=ON 2CE5-2CEA=ON 2CEF-2CF1=NSM 2CF9-2CFF=ON 2D7F=NSM
2DE0-2DFF=NSM 2E00-3004=ON 3008-3020=ON 302A-302D=NSM 3030=ON 3037=ON 303D-303F=ON 3099-309A=NSM
30A0=ON 30FB=ON 31C0-31E3=ON 4DC0-4DFF=ON A490-A4C6=ON A60D-A60F=ON A66F-A672=NSM A673=ON
A674-A67D=NSM A67E-A67F=ON A69E-A69F=NSM A6F0-A6F1=NSM A700-A721=ON A788=ON A802=NSM A806=NSM
A80B=NSM A825-A826=NSM A828-A82B=ON A82C=NSM A838-A839=ET A874-A877=ON A8C4-A8C5=NSM
A8E0-A8F1=NSM A8FF=NSM A926-A92D=NSM A947-A951=NSM A980-A982=NSM A9B3=NSM A9B6-A9B9=NSM
A9BC-A9BD=NSM A9E5=NSM AA29-AA2E=NSM AA31-AA32=NSM AA35-AA36=NSM AA43=NSM AA4C=NSM AA7C=NSM
AAB0=NSM AAB2-AAB4=NSM AAB7-AAB8=NSM AABE-AABF=NSM AAC1=NSM AAEC-AAED=NSM AAF6=NSM AB6A-AB6B=ON
ABE5=NSM ABE8=NSM ABED=NSM FB1E=NSM FBB2-FBD2=AL FD3E-FD4F=ON FD90-FDCE=AL FDCF-FDFF=ON
FE20-FE2F=NSM FE45-FE46=ON FE73=AL 10101=ON 10140-1018C=ON 10190-101A0=ON 101FD=NSM 102E0=NSM
102E1-102FB=EN 10376-1037A=NSM 10800-1091B=R 1091F=ON 10920-10A00=R 10A01-10A0F=NSM
10A10-10A35=R 10A38-10A3F=NSM 10A40-10AE4=R 10AE5-10AE6=NSM 10AEB-10B35=R 10B39-10B3F=ON
10B40-10CFF=R 10D00-10D23=AL 10D24-10D27=NSM 10D30-10D39=AN 10D40-10D4F=R 10D69-10D6D=NSM
10D6E-10D8F=R 10E60-10E7E=AN 10E80-10EA9=R 10EAB-10EAC=NSM 10EAD-10EB1=R 10EC2-10ED8=AL
10EFA-10EFF=NSM 10F00-10F27=R 10F30-10F45=AL 10F46-10F50=NSM 10F51-10F59=AL 10F70-10F81=R
10F82-10F85=NSM 10F86-10FF6=R 11001=NSM 11038-11046=NSM 11052-11065=ON 11070=NSM 11073-11074=NSM
1107F-11081=NSM 110B3-110B6=NSM 110B9-110BA=NSM 110C2=NSM 11100-11102=NSM 11127-1112B=NSM
1112D-11134=NSM 11173=NSM 11180-11181=NSM 111B6-111BE=NSM 111C9-111CC=NSM 111CF=NSM
1122F-11231=NSM 11234=NSM 11236-11237=NSM 1123E=NSM 11241=NSM 112DF=NSM 112E3-112EA=NSM
11300-11301=NSM 1133B-1133C=NSM 11340=NSM 11366-11374=NSM 113BB-113C0=NSM 113CE=NSM 113D0=NSM
113D2=NSM 113E1-113E2=NSM 11438-1143F=NSM 11442-11444=NSM 11446=NSM 1145E=NSM 114B3-114B8=NSM
114BA=NSM 114BF-114C0=NSM 114C2-114C3=NSM 115B2-115B5=NSM 115BC-115BD=NSM 115BF-115C0=NSM
115DC-115DD=NSM 11633-1163A=NSM 1163D=NSM 1163F-11640=NSM 11660-1166C=ON 116AB=NSM 116AD=NSM
116B0-116B5=NSM 116B7=NSM 1171D-1171F=NSM 11722-11725=NSM 11727-1172B=NSM 1182F-11837=NSM
11839-1183A=NSM 1193B-1193C=NSM 1193E=NSM 11943=NSM 119D4-119DB=NSM 119E0=NSM 11A01-11A0A=NSM
11A33-11A38=NSM 11A3B-11A3E=NSM 11A47=NSM 11A51-11A56=NSM 11A59-11A5B=NSM 11A8A-11A96=NSM
11A98-11A99=NSM 11B60=NSM 11B62-11B64=NSM 11B66=NSM 11C30-11C3D=NSM 11C3F=NSM 11C92-11CA7=NSM
11CAA-11CB0=NSM 11CB2-11CB3=NSM 11CB5-11CB6=NSM 11D31-11D45=NSM 11D47=NSM 11D90-11D91=NSM
11D95=NSM 11D97=NSM 11EF3-11EF4=NSM 11F00-11F01=NSM 11F36-11F3A=NSM 11F40=NSM 11F42=NSM
11F5A=NSM 11FD5-11FDC=ON 11FDD-11FE0=ET 11FE1-11FF1=ON 13440=NSM 13447-13455=NSM 1611E-16129=NSM
1612D-1612F=NSM 16AF0-16AF4=NSM 16B30-16B36=NSM 16F4F=NSM 16F8F-16F92=NSM 16FE2=ON 16FE4=NSM
1BC9D-1BC9E=NSM 1CF00-1CF46=NSM 1D167-1D169=NSM 1D17B-1D182=NSM 1D185-1D18B=NSM 1D1AA-1D1AD=NSM
1D1E9-1D241=ON 1D242-1D244=NSM 1D245=ON 1D300-1D356=ON 1DA00-1DA36=NSM 1DA3B-1DA6C=NSM 1DA75=NSM
1DA84=NSM 1DA9B-1DAAF=NSM 1E000-1E08F=NSM 1E130-1E136=NSM 1E2AE=NSM 1E2EC-1E2EF=NSM 1E2FF=ET
1E4EC-1E4EF=NSM 1E5EE-1E5EF=NSM 1E6E3=NSM 1E6E6=NSM 1E6EE-1E6EF=NSM 1E6F5=NSM 1E800-1E8CF=R
1E8D0-1E8D6=NSM 1E922-1E943=R 1E944-1E94A=NSM 1E94B-1E95F=R 1EC71-1ED3D=AL 1EEF0-1F12F=ON
1F16D-1F16F=ON 1F1AD=ON 1F260-1F6D7=ON 1F6DC-1F776=ON 1F77B-1F8B1=ON 1F900-1FA53=ON
1FA60-1FA88=ON 1FA90-1FABD=ON 1FABF-1FAC5=ON 1FACE-1FADB=ON 1FAE0-1FAE8=ON 1FAF0-1FBCA=ON
"

def asciiDirection (c : Char) : Text :=
  if c.isDigit then "EN".toList
  else if c.isAlpha then "L".toList
  else if c = '+' || c = '-' then "ES".toList
  else if c = '#' || c = '$' || c = '%' then "ET".toList
  else if c = ',' || c = '.' || c = '/' || c = ':' then "CS".toList
  else "ON".toList

def direction (c : Char) : Text :=
  if c.toNat < 0x80 then asciiDirection c
  else match Table.find? directionRuns c.toNat with
    | some r => r.value
    | none => "L".toList

def isOneOf (names : String) (t : Text) : Bool := (Text.split ' ' names.toList).contains t

def isRightToLeft (t : Text) : Bool := t.any fun c => isOneOf "R AL AN" (direction c)

def labelDirected (label : Text) : Bool :=
  match label.map direction with
  | [] => true
  | d :: ds =>
    let last := ((d :: ds).reverse.dropWhile (isOneOf "NSM")).headD []
    if isOneOf "R AL" d then
      ds.all (isOneOf "R AL AN EN ES CS ET ON BN NSM") && isOneOf "R AL EN AN" last &&
        !(ds.any (isOneOf "EN") && ds.any (isOneOf "AN"))
    else isOneOf "L" d && ds.all (isOneOf "L EN ES CS ET ON BN NSM") && isOneOf "L EN" last

/-- Labels may have any direction as long as none of them runs from right to left. -/
def directed (labels : List Text) : Bool :=
  !labels.any isRightToLeft || labels.all labelDirected

/-- Characters that may begin no label. -/
def markRuns : Array Table.Row := Table.rows "
300-36F 483-489 591-5BD 5BF 5C1-5C2 5C4-5C5 5C7 610-61A 64B-65F 670 6D6-6DC 6DF-6E4 6E7-6E8
6EA-6ED 711 730-74A 7A6-7B0 7EB-7F3 7FD 816-819 81B-823 825-827 829-82D 859-85B 897-89F 8CA-903
93A-93C 93E-94F 951-957 962-963 981-983 9BC 9BE-9CD 9D7 9E2-9E3 9FE-A03 A3C-A51 A70-A71 A75
A81-A83 ABC ABE-ACD AE2-AE3 AFA-B03 B3C B3E-B57 B62-B63 B82 BBE-BCD BD7 C00-C04 C3C C3E-C56
C62-C63 C81-C83 CBC CBE-CD6 CE2-CE3 CF3-D03 D3B-D3C D3E-D4D D57 D62-D63 D81-D83 DCA-DDF DF2-DF3
E31 E34-E3A E47-E4E EB1 EB4-EBC EC8-ECE F18-F19 F35 F37 F39 F3E-F3F F71-F84 F86-F87 F8D-FBC FC6
102B-103E 1056-1059 105E-1060 1062-1064 1067-106D 1071-1074 1082-108D 108F 109A-109D 135D-135F
1712-1715 1732-1734 1752-1753 1772-1773 17B6-17D3 17DD 1885-1886 18A9 1920-193B 1A17-1A1B
1A55-1A7F 1AB0-1B04 1B34-1B44 1B6B-1B73 1B80-1B82 1BA1-1BAD 1BE6-1BF3 1C24-1C37 1CD0-1CD2
1CD4-1CE8 1CED 1CF4 1CF7-1CF9 1DC0-1DFF 20D0-20F0 2CEF-2CF1 2D7F 2DE0-2DFF 302A-302F 3099-309A
A66F-A672 A674-A67D A69E-A69F A6F0-A6F1 A802 A806 A80B A823-A827 A82C A880-A881 A8B4-A8C5
A8E0-A8F1 A8FF A926-A92D A947-A953 A980-A983 A9B3-A9C0 A9E5 AA29-AA36 AA43 AA4C-AA4D AA7B-AA7D
AAB0 AAB2-AAB4 AAB7-AAB8 AABE-AABF AAC1 AAEB-AAEF AAF5-AAF6 ABE3-ABEA ABEC-ABED FB1E FE20-FE2F
101FD 102E0 10376-1037A 10A01-10A0F 10A38-10A3F 10AE5-10AE6 10D24-10D27 10D69-10D6D 10EAB-10EAC
10EFA-10EFF 10F46-10F50 10F82-10F85 11000-11002 11038-11046 11070 11073-11074 1107F-11082
110B0-110BA 110C2 11100-11102 11127-11134 11145-11146 11173 11180-11182 111B3-111C0 111C9-111CC
111CE-111CF 1122C-11237 1123E 11241 112DF-112EA 11300-11303 1133B-1133C 1133E-1134D 11357
11362-11374 113B8-113D0 113D2 113E1-113E2 11435-11446 1145E 114B0-114C3 115AF-115C0 115DC-115DD
11630-11640 116AB-116B7 1171D-1172B 1182C-1183A 11930-1193E 11940 11942-11943 119D1-119E0 119E4
11A01-11A0A 11A33-11A39 11A3B-11A3E 11A47 11A51-11A5B 11A8A-11A99 11B60-11B67 11C2F-11C3F
11C92-11CB6 11D31-11D45 11D47 11D8A-11D97 11EF3-11EF6 11F00-11F01 11F03 11F34-11F42 11F5A 13440
13447-13455 1611E-1612F 16AF0-16AF4 16B30-16B36 16F4F 16F51-16F92 16FE4-16FF1 1BC9D-1BC9E
1CF00-1CF46 1D165-1D169 1D16D-1D182 1D185-1D18B 1D1AA-1D1AD 1D242-1D244 1DA00-1DA36 1DA3B-1DA6C
1DA75 1DA84 1DA9B-1DAAF 1E000-1E08F 1E130-1E136 1E2AE 1E2EC-1E2EF 1E4EC-1E4EF 1E5EE-1E5EF 1E6E3
1E6E6 1E6EE-1E6EF 1E6F5 1E8D0-1E8D6 1E944-1E94A
"

def isMark (c : Char) : Bool := 0x80 ≤ c.toNat && Table.holds markRuns c.toNat

def isAscii (t : Text) : Bool := t.all Punycode.isAscii

def marker : Text := "xn--".toList

/-- Longest Punycode that is read, and longest label that is written in it. -/
def readLimit : Nat := 2000

def writeLimit : Nat := 1000

/-- Control characters, the space, and the characters that delimit the parts of a URL. -/
def isForbidden (c : Char) : Bool :=
  c.toNat ≤ 0x20 || c = '\x7F' || "#%/:<>?@[\\]^|".toList.contains c

def normalize? (t : Text) : Option Text := do
  return Composition.compose (← t.mapM mapped?).flatten

/-- A label outside ASCII must not begin with a mark or look like Punycode. -/
def isLabel (t : Text) : Bool :=
  !(t.head?.any isMark) && !Text.startsWith marker t && joinersAllowed [] t

/-- The label in its own script, for a label that may be written in Punycode. -/
def label? (t : Text) : Option Text :=
  match Text.after? marker t with
  | some code =>
    if code.length ≤ readLimit then do
      let u ← Punycode.decode? code
      if isAscii u || !isLabel u || normalize? u ≠ some u then none
      return u
    else none
  | none => some t

/-- The label in ASCII and in its own script. -/
def labels? (t : Text) : Option (Text × Text) :=
  if isAscii t then (label? t).map fun u => (t, u)
  else if isLabel t && t.length ≤ writeLimit then some (marker ++ Punycode.encode t, t)
  else none

/-- The host in ASCII. A host that is ASCII keeps its labels; they are only put in lower case. -/
def hostOfText? (host : Text) : Option Text := do
  let host ← if isAscii host then some (Text.lower host) else normalize? host
  if host.any isForbidden then none
  let labels ← (Text.split '.' host).mapM labels?
  if !directed (labels.map Prod.snd) then none
  return Text.join '.' (labels.map Prod.fst)

/-- Bytes that are not UTF-8 make no host. -/
def host? (bytes : Bytes) : Option Text := (Utf8.decode? bytes).bind hostOfText?

end AffiliateLinks.Idna
