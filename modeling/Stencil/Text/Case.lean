import Stencil.Text.Forms

/-!
# Upper, lower and title case

Case forms of characters and of texts. A form may be longer than the character, and the lower form of
the capital sigma depends on its neighbours: at the end of a word it is the final sigma.
-/
namespace Stencil.Text

/-- Upper forms. -/
def upperRuns : ShortForms := .ofText
  ["2p q 1 1t 51 1 1 po 68 n 1 5c 6w 7 1 60 73 1 1 ag 75 o 2 74 8h 1 1 21 8j 3 2 8i 8q 8 2 8p 97 n",
    "2 96 ai 3 2 ah an 1 1 2b ao 1 1 g3 ar 2 2 aq aw 1 1 av b0 1 1 az b6 1 1 b5 b9 1 1 dy bd 1 1 bc",
    "be 1 1 fx bi 1 1 f4 bl 3 2 bk bs 1 1 br bx 1 1 bw c0 1 1 bz c4 2 2 c3 c9 1 1 c8 cd 1 1 cc cf 1",
    "1 dz cl 1 1 ck cm 1 1 ck co 1 1 cn cp 1 1 cn cr 1 1 cq cs 1 1 cq cu 8 2 ct d9 1 1 b2 db 9 2 da",
    "du 1 1 dt dv 1 1 dt dx 1 1 dw e1 k 2 e0 f7 9 2 f6 fw 1 1 fv fz 2 1 8se g2 1 1 g1 g7 5 2 g6 gg 1",
    "1 8rz gh 1 1 8rx gi 1 1 8s0 gj 1 1 ap gk 1 1 au gm 2 1 ax gp 1 1 b3 gr 1 1 b4 gs 1 1 x4b gw 1 1",
    "b7 gx 1 1 x4c gz 1 1 b8 h1 1 1 x3h h2 1 1 x4a h4 1 1 bb h5 1 1 ba h6 1 1 x4e h7 1 1 8rm h8 1 1",
    "x4d hb 1 1 bg hd 1 1 8ry he 1 1 bh hh 1 1 bj hp 1 1 8ro hs 1 1 bq hu 1 1 x51 hv 1 1 bt hz 1 1",
    "x4h i0 1 1 by i1 1 1 g4 i2 2 1 c1 i4 1 1 g5 ia 1 1 c7 il 1 1 x4i im 1 1 x4g n9 1 1 pl oh 2 2 og",
    "on 1 1 om or 3 1 sd q4 1 1 p2 q5 3 1 p4 q9 h 1 pd qq 1 1 pv qr 9 1 pv r0 1 1 p8 r1 2 1 pa r4 1",
    "1 pe r5 1 1 pk r9 1 1 py ra 1 1 ps rb 1 1 r3 rd c 2 rc s0 1 1 pm s1 1 1 pt s2 1 1 s9 s3 1 1 ov",
    "s5 1 1 ph s8 1 1 s7 sb 1 1 sa ts w 1 sw uo g 1 sg v5 h 2 v4 wb r 2 wa xu 7 2 xt y7 1 1 xs y9 1c",
    "2 y8 129 12 1 10x 3bk 17 1 5n4 3ct 3 1 5od 3y0 6 1 3xs 5mo 1 1 sy 5mp 1 1 t0 5mq 1 1 ta 5mr 2 1",
    "td 5mt 1 1 te 5mu 1 1 tm 5mv 1 1 v6 5mw 1 1 wui 5tl 1 1 x31 5tp 1 1 8rn 5u6 1 1 x52 5xd 23 2",
    "5xc 61n 1 1 600 61t 1c 2 61s 64g 8 1 64o 64w 6 1 654 65c 8 1 65k 65s 8 1 660 668 6 1 66g 66p 4",
    "2 66x 674 8 1 67c 67k 2 1 69m 67m 4 1 6a0 67q 2 1 6ai 67s 2 1 6bc 67u 2 1 6ay 67w 2 1 6be 69c 2",
    "1 69k 69q 1 1 pl 6a8 2 1 6ag 6ao 2 1 6aw 6at 1 1 6b0 6ku 1 1 6k2 6ls g 1 6lc 6mc 1 1 6mb 79s q",
    "1 792 8q8 1c 1 8ow 8rl 1 1 8rk 8rp 1 1 fu 8rq 1 1 fy 8rs 3 2 8rr 8s3 1 1 8s2 8s6 1 1 8s5 8sh 1e",
    "2 8sg 8vg 2 2 8vf 8vn 1 1 8vm 8w0 12 1 3a8 8x3 1 1 3bb 8x9 1 1 3bh wu9 n 2 wu8 ww1 e 2 ww0 x0j",
    "7 2 x0i x0z v 2 x0y x2y 2 2 x2x x33 5 2 x32 x3g 1 1 x3f x3l 2 2 x3k x3o 1 1 x50 x3r a 2 x3q x4l",
    "8 2 x4k x54 2 2 x53 x5d 1 1 x5c x5j 2 2 x5i x6e 1 1 x6d xub 1 1 x4j xv4 28 1 3vk 1ef5 q 1 1ee9",
    "1fe0 14 1 1fcw 1fiw 10 1 1fhs 1fo7 b 1 1fn4 1foj f 1 1fng 1foz 7 1 1fnw 1fp7 2 1 1fo4 1h34 1f 1",
    "1h1c 1jgg w 1 1jfk 20dc w 1 20cg 2oma y 1 2olc"]

/-- The characters whose upper form is several characters: each with the length and the characters
of that form. -/
def upperLong : LongForms := .ofText
  ["67 2 2b 2b 95 2 jg 26 ds 2 22 lo pc 3 pl lk ld q8 3 px lk ld 13b 2 111 11u 61i 2 20 mp 61j 2 2c",
    "lk 61k 2 2f lm 61l 2 2h lm 61m 2 1t ji 66o 2 px lv 66q 3 px lv lc 66s 3 px lv ld 66u 3 px lv n6",
    "680 2 64o pl 681 2 64p pl 682 2 64q pl 683 2 64r pl 684 2 64s pl 685 2 64t pl 686 2 64u pl 687",
    "2 64v pl 688 2 64o pl 689 2 64p pl 68a 2 64q pl 68b 2 64r pl 68c 2 64s pl 68d 2 64t pl 68e 2",
    "64u pl 68f 2 64v pl 68g 2 65k pl 68h 2 65l pl 68i 2 65m pl 68j 2 65n pl 68k 2 65o pl 68l 2 65p",
    "pl 68m 2 65q pl 68n 2 65r pl 68o 2 65k pl 68p 2 65l pl 68q 2 65m pl 68r 2 65n pl 68s 2 65o pl",
    "68t 2 65p pl 68u 2 65q pl 68v 2 65r pl 68w 2 67c pl 68x 2 67d pl 68y 2 67e pl 68z 2 67f pl 690",
    "2 67g pl 691 2 67h pl 692 2 67i pl 693 2 67j pl 694 2 67c pl 695 2 67d pl 696 2 67e pl 697 2",
    "67f pl 698 2 67g pl 699 2 67h pl 69a 2 67i pl 69b 2 67j pl 69e 2 69m pl 69f 2 pd pl 69g 2 p2 pl",
    "69i 2 pd n6 69j 3 pd n6 pl 69o 2 pd pl 69u 2 6a2 pl 69v 2 pj pl 69w 2 p5 pl 69y 2 pj n6 69z 3",
    "pj n6 pl 6a4 2 pj pl 6aa 3 pl lk lc 6ab 3 pl lk ld 6ae 2 pl n6 6af 3 pl lk n6 6aq 3 px lk lc",
    "6ar 3 px lk ld 6as 2 pt lv 6au 2 px n6 6av 3 px lk n6 6b6 2 6be pl 6b7 2 q1 pl 6b8 2 pb pl 6ba",
    "2 q1 n6 6bb 3 q1 n6 pl 6bg 2 q1 pl 1dkw 2 1y 1y 1dkx 2 1y 21 1dky 2 1y 24 1dkz 3 1y 1y 21 1dl0",
    "3 1y 1y 24 1dl1 2 2b 2c 1dl2 2 2b 2c 1dlf 2 11g 11i 1dlg 2 11g 111 1dlh 2 11g 117 1dli 2 11q",
    "11i 1dlj 2 11g 119"]

/-- Lower forms. -/
def lowerRuns : ShortForms := .ofText
  ["1t q 1 2p 5c n 1 68 60 7 1 6w 74 o 2 75 8i 3 2 8j 8p 8 2 8q 96 n 2 97 ag 1 1 73 ah 3 2 ai ap 1",
    "1 gj aq 2 2 ar au 1 1 gk av 1 1 aw ax 2 1 gm az 1 1 b0 b2 1 1 d9 b3 1 1 gp b4 1 1 gr b5 1 1 b6",
    "b7 1 1 gw b8 1 1 gz ba 1 1 h5 bb 1 1 h4 bc 1 1 bd bg 1 1 hb bh 1 1 he bj 1 1 hh bk 3 2 bl bq 1",
    "1 hs br 1 1 bs bt 1 1 hv bw 1 1 bx by 1 1 i0 bz 1 1 c0 c1 2 1 i2 c3 2 2 c4 c7 1 1 ia c8 1 1 c9",
    "cc 1 1 cd ck 1 1 cm cl 1 1 cm cn 1 1 cp co 1 1 cp cq 1 1 cs cr 9 2 cs da 9 2 db dt 1 1 dv du 2",
    "2 dv dy 1 1 b9 dz 1 1 cf e0 k 2 e1 f4 1 1 bi f6 9 2 f7 fu 1 1 8rp fv 1 1 fw fx 1 1 be fy 1 1",
    "8rq g1 1 1 g2 g3 1 1 ao g4 1 1 i1 g5 1 1 i4 g6 5 2 g7 og 2 2 oh om 1 1 on ov 1 1 s3 p2 1 1 q4",
    "p4 3 1 q5 p8 1 1 r0 pa 2 1 r1 pd h 1 q9 pv 9 1 qr r3 1 1 rb rc c 2 rd s4 1 1 qg s7 1 1 s8 s9 1",
    "1 s2 sa 1 1 sb sd 3 1 or sg g 1 uo sw w 1 ts v4 h 2 v5 wa r 2 wb xs 1 1 y7 xt 7 2 xu y8 1c 2 y9",
    "10x 12 1 129 3a8 12 1 8w0 3bb 1 1 8x3 3bh 1 1 8x9 3vk 28 1 xv4 3xs 6 1 3y0 5n4 17 1 3bk 5od 3 1",
    "3ct 5xc 23 2 5xd 61q 1 1 67 61s 1c 2 61t 64o 8 1 64g 654 6 1 64w 65k 8 1 65c 660 8 1 65s 66g 6",
    "1 668 66x 4 2 66p 67c 8 1 674 688 8 1 680 68o 8 1 68g 694 8 1 68w 69k 2 1 69c 69m 2 1 67k 69o 1",
    "1 69f 6a0 4 1 67m 6a4 1 1 69v 6ag 2 1 6a8 6ai 2 1 67q 6aw 2 1 6ao 6ay 2 1 67u 6b0 1 1 6at 6bc 2",
    "1 67s 6be 2 1 67w 6bg 1 1 6b7 6jq 1 1 qx 6ju 1 1 2z 6jv 1 1 6d 6k2 1 1 6ku 6lc g 1 6ls 6mb 1 1",
    "6mc 792 q 1 79s 8ow 1c 1 8q8 8rk 1 1 8rl 8rm 1 1 h7 8rn 1 1 5tp 8ro 1 1 hp 8rr 3 2 8rs 8rx 1 1",
    "gh 8ry 1 1 hd 8rz 1 1 gg 8s0 1 1 gi 8s2 1 1 8s3 8s5 1 1 8s6 8se 2 1 fz 8sg 1e 2 8sh 8vf 2 2 8vg",
    "8vm 1 1 8vn wu8 n 2 wu9 ww0 e 2 ww1 x0i 7 2 x0j x0y v 2 x0z x2x 2 2 x2y x31 1 1 5tl x32 5 2 x33",
    "x3f 1 1 x3g x3h 1 1 h1 x3k 2 2 x3l x3q a 2 x3r x4a 1 1 h2 x4b 1 1 gs x4c 1 1 gx x4d 1 1 h8 x4e",
    "1 1 h6 x4g 1 1 im x4h 1 1 hz x4i 1 1 il x4j 1 1 xub x4k 8 2 x4l x50 1 1 x3o x51 1 1 hu x52 1 1",
    "5u6 x53 2 2 x54 x5c 1 1 x5d x5i 2 2 x5j x6d 1 1 x6e 1ee9 q 1 1ef5 1fcw 14 1 1fe0 1fhs 10 1 1fiw",
    "1fn4 b 1 1fo7 1fng f 1 1foj 1fnw 7 1 1foz 1fo4 2 1 1fp7 1h1c 1f 1 1h34 1jfk w 1 1jgg 20cg w 1",
    "20dc 2olc y 1 2oma"]

/-- Title forms. -/
def titleRuns : ShortForms := .ofText
  ["2p q 1 1t 51 1 1 po 68 n 1 5c 6w 7 1 60 73 1 1 ag 75 o 2 74 8h 1 1 21 8j 3 2 8i 8q 8 2 8p 97 n",
    "2 96 ai 3 2 ah an 1 1 2b ao 1 1 g3 ar 2 2 aq aw 1 1 av b0 1 1 az b6 1 1 b5 b9 1 1 dy bd 1 1 bc",
    "be 1 1 fx bi 1 1 f4 bl 3 2 bk bs 1 1 br bx 1 1 bw c0 1 1 bz c4 2 2 c3 c9 1 1 c8 cd 1 1 cc cf 1",
    "1 dz ck 1 1 cl cm 1 1 cl cn 1 1 co cp 1 1 co cq 1 1 cr cs 9 2 cr d9 1 1 b2 db 9 2 da dt 1 1 du",
    "dv 2 2 du e1 k 2 e0 f7 9 2 f6 fw 1 1 fv fz 2 1 8se g2 1 1 g1 g7 5 2 g6 gg 1 1 8rz gh 1 1 8rx gi",
    "1 1 8s0 gj 1 1 ap gk 1 1 au gm 2 1 ax gp 1 1 b3 gr 1 1 b4 gs 1 1 x4b gw 1 1 b7 gx 1 1 x4c gz 1",
    "1 b8 h1 1 1 x3h h2 1 1 x4a h4 1 1 bb h5 1 1 ba h6 1 1 x4e h7 1 1 8rm h8 1 1 x4d hb 1 1 bg hd 1",
    "1 8ry he 1 1 bh hh 1 1 bj hp 1 1 8ro hs 1 1 bq hu 1 1 x51 hv 1 1 bt hz 1 1 x4h i0 1 1 by i1 1 1",
    "g4 i2 2 1 c1 i4 1 1 g5 ia 1 1 c7 il 1 1 x4i im 1 1 x4g n9 1 1 pl oh 2 2 og on 1 1 om or 3 1 sd",
    "q4 1 1 p2 q5 3 1 p4 q9 h 1 pd qq 1 1 pv qr 9 1 pv r0 1 1 p8 r1 2 1 pa r4 1 1 pe r5 1 1 pk r9 1",
    "1 py ra 1 1 ps rb 1 1 r3 rd c 2 rc s0 1 1 pm s1 1 1 pt s2 1 1 s9 s3 1 1 ov s5 1 1 ph s8 1 1 s7",
    "sb 1 1 sa ts w 1 sw uo g 1 sg v5 h 2 v4 wb r 2 wa xu 7 2 xt y7 1 1 xs y9 1c 2 y8 129 12 1 10x",
    "3y0 6 1 3xs 5mo 1 1 sy 5mp 1 1 t0 5mq 1 1 ta 5mr 2 1 td 5mt 1 1 te 5mu 1 1 tm 5mv 1 1 v6 5mw 1",
    "1 wui 5tl 1 1 x31 5tp 1 1 8rn 5u6 1 1 x52 5xd 23 2 5xc 61n 1 1 600 61t 1c 2 61s 64g 8 1 64o 64w",
    "6 1 654 65c 8 1 65k 65s 8 1 660 668 6 1 66g 66p 4 2 66x 674 8 1 67c 67k 2 1 69m 67m 4 1 6a0 67q",
    "2 1 6ai 67s 2 1 6bc 67u 2 1 6ay 67w 2 1 6be 680 8 1 688 68g 8 1 68o 68w 8 1 694 69c 2 1 69k 69f",
    "1 1 69o 69q 1 1 pl 69v 1 1 6a4 6a8 2 1 6ag 6ao 2 1 6aw 6at 1 1 6b0 6b7 1 1 6bg 6ku 1 1 6k2 6ls",
    "g 1 6lc 6mc 1 1 6mb 79s q 1 792 8q8 1c 1 8ow 8rl 1 1 8rk 8rp 1 1 fu 8rq 1 1 fy 8rs 3 2 8rr 8s3",
    "1 1 8s2 8s6 1 1 8s5 8sh 1e 2 8sg 8vg 2 2 8vf 8vn 1 1 8vm 8w0 12 1 3a8 8x3 1 1 3bb 8x9 1 1 3bh",
    "wu9 n 2 wu8 ww1 e 2 ww0 x0j 7 2 x0i x0z v 2 x0y x2y 2 2 x2x x33 5 2 x32 x3g 1 1 x3f x3l 2 2 x3k",
    "x3o 1 1 x50 x3r a 2 x3q x4l 8 2 x4k x54 2 2 x53 x5d 1 1 x5c x5j 2 2 x5i x6e 1 1 x6d xub 1 1 x4j",
    "xv4 28 1 3vk 1ef5 q 1 1ee9 1fe0 14 1 1fcw 1fiw 10 1 1fhs 1fo7 b 1 1fn4 1foj f 1 1fng 1foz 7 1",
    "1fnw 1fp7 2 1 1fo4 1h34 1f 1 1h1c 1jgg w 1 1jfk 20dc w 1 20cg 2oma y 1 2olc"]

/-- The characters whose title form is several characters: each with the length and the characters
of that form. -/
def titleLong : LongForms := .ofText
  ["67 2 2b 37 95 2 jg 26 ds 2 22 lo pc 3 pl lk ld q8 3 px lk ld 13b 2 111 136 61i 2 20 mp 61j 2 2c",
    "lk 61k 2 2f lm 61l 2 2h lm 61m 2 1t ji 66o 2 px lv 66q 3 px lv lc 66s 3 px lv ld 66u 3 px lv n6",
    "69e 2 69m n9 69g 2 p2 n9 69i 2 pd n6 69j 3 pd n6 n9 69u 2 6a2 n9 69w 2 p5 n9 69y 2 pj n6 69z 3",
    "pj n6 n9 6aa 3 pl lk lc 6ab 3 pl lk ld 6ae 2 pl n6 6af 3 pl lk n6 6aq 3 px lk lc 6ar 3 px lk ld",
    "6as 2 pt lv 6au 2 px n6 6av 3 px lk n6 6b6 2 6be n9 6b8 2 pb n9 6ba 2 q1 n6 6bb 3 q1 n6 n9 1dkw",
    "2 1y 2u 1dkx 2 1y 2x 1dky 2 1y 30 1dkz 3 1y 2u 2x 1dl0 3 1y 2u 30 1dl1 2 2b 38 1dl2 2 2b 38",
    "1dlf 2 11g 12u 1dlg 2 11g 12d 1dlh 2 11g 12j 1dli 2 11q 12u 1dlj 2 11g 12l"]

/-- Folded forms, for comparing without case. -/
def foldRuns : ShortForms := .ofText
  ["1t q 1 2p 51 1 1 qk 5c n 1 68 60 7 1 6w 74 o 2 75 8i 3 2 8j 8p 8 2 8q 96 n 2 97 ag 1 1 73 ah 3",
    "2 ai an 1 1 37 ap 1 1 gj aq 2 2 ar au 1 1 gk av 1 1 aw ax 2 1 gm az 1 1 b0 b2 1 1 d9 b3 1 1 gp",
    "b4 1 1 gr b5 1 1 b6 b7 1 1 gw b8 1 1 gz ba 1 1 h5 bb 1 1 h4 bc 1 1 bd bg 1 1 hb bh 1 1 he bj 1",
    "1 hh bk 3 2 bl bq 1 1 hs br 1 1 bs bt 1 1 hv bw 1 1 bx by 1 1 i0 bz 1 1 c0 c1 2 1 i2 c3 2 2 c4",
    "c7 1 1 ia c8 1 1 c9 cc 1 1 cd ck 1 1 cm cl 1 1 cm cn 1 1 cp co 1 1 cp cq 1 1 cs cr 9 2 cs da 9",
    "2 db dt 1 1 dv du 2 2 dv dy 1 1 b9 dz 1 1 cf e0 k 2 e1 f4 1 1 bi f6 9 2 f7 fu 1 1 8rp fv 1 1 fw",
    "fx 1 1 be fy 1 1 8rq g1 1 1 g2 g3 1 1 ao g4 1 1 i1 g5 1 1 i4 g6 5 2 g7 n9 1 1 qh og 2 2 oh om 1",
    "1 on ov 1 1 s3 p2 1 1 q4 p4 3 1 q5 p8 1 1 r0 pa 2 1 r1 pd h 1 q9 pv 9 1 qr qq 1 1 qr r3 1 1 rb",
    "r4 1 1 qa r5 1 1 qg r9 1 1 qu ra 1 1 qo rc c 2 rd s0 1 1 qi s1 1 1 qp s4 1 1 qg s5 1 1 qd s7 1",
    "1 s8 s9 1 1 s2 sa 1 1 sb sd 3 1 or sg g 1 uo sw w 1 ts v4 h 2 v5 wa r 2 wb xs 1 1 y7 xt 7 2 xu",
    "y8 1c 2 y9 10x 12 1 129 3a8 12 1 8w0 3bb 1 1 8x3 3bh 1 1 8x9 3y0 6 1 3xs 5mo 1 1 tu 5mp 1 1 tw",
    "5mq 1 1 u6 5mr 2 1 u9 5mt 1 1 ua 5mu 1 1 ui 5mv 1 1 v7 5mw 1 1 wuj 5n4 17 1 3bk 5od 3 1 3ct 5xc",
    "23 2 5xd 61n 1 1 601 61s 1c 2 61t 64o 8 1 64g 654 6 1 64w 65k 8 1 65c 660 8 1 65s 66g 6 1 668",
    "66x 4 2 66p 67c 8 1 674 69k 2 1 69c 69m 2 1 67k 69q 1 1 qh 6a0 4 1 67m 6ag 2 1 6a8 6ai 2 1 67q",
    "6aw 2 1 6ao 6ay 2 1 67u 6b0 1 1 6at 6bc 2 1 67s 6be 2 1 67w 6jq 1 1 qx 6ju 1 1 2z 6jv 1 1 6d",
    "6k2 1 1 6ku 6lc g 1 6ls 6mb 1 1 6mc 792 q 1 79s 8ow 1c 1 8q8 8rk 1 1 8rl 8rm 1 1 h7 8rn 1 1 5tp",
    "8ro 1 1 hp 8rr 3 2 8rs 8rx 1 1 gh 8ry 1 1 hd 8rz 1 1 gg 8s0 1 1 gi 8s2 1 1 8s3 8s5 1 1 8s6 8se",
    "2 1 fz 8sg 1e 2 8sh 8vf 2 2 8vg 8vm 1 1 8vn wu8 n 2 wu9 ww0 e 2 ww1 x0i 7 2 x0j x0y v 2 x0z x2x",
    "2 2 x2y x31 1 1 5tl x32 5 2 x33 x3f 1 1 x3g x3h 1 1 h1 x3k 2 2 x3l x3q a 2 x3r x4a 1 1 h2 x4b 1",
    "1 gs x4c 1 1 gx x4d 1 1 h8 x4e 1 1 h6 x4g 1 1 im x4h 1 1 hz x4i 1 1 il x4j 1 1 xub x4k 8 2 x4l",
    "x50 1 1 x3o x51 1 1 hu x52 1 1 5u6 x53 2 2 x54 x5c 1 1 x5d x5i 2 2 x5j x6d 1 1 x6e xv4 28 1 3vk",
    "1ee9 q 1 1ef5 1fcw 14 1 1fe0 1fhs 10 1 1fiw 1fn4 b 1 1fo7 1fng f 1 1foj 1fnw 7 1 1foz 1fo4 2 1",
    "1fp7 1h1c 1f 1 1h34 1jfk w 1 1jgg 20cg w 1 20dc 2olc y 1 2oma"]

/-- The characters whose fold form is several characters: each with the length and the characters
of that form. -/
def foldLong : LongForms := .ofText
  ["67 2 37 37 8g 2 2x lj 95 2 jg 32 ds 2 2y lo pc 3 qh lk ld q8 3 qt lk ld 13b 2 12d 136 61i 2 2w",
    "mp 61j 2 38 lk 61k 2 3b lm 61l 2 3d lm 61m 2 2p ji 61q 2 37 37 66o 2 qt lv 66q 3 qt lv lc 66s 3",
    "qt lv ld 66u 3 qt lv n6 680 2 64g qh 681 2 64h qh 682 2 64i qh 683 2 64j qh 684 2 64k qh 685 2",
    "64l qh 686 2 64m qh 687 2 64n qh 688 2 64g qh 689 2 64h qh 68a 2 64i qh 68b 2 64j qh 68c 2 64k",
    "qh 68d 2 64l qh 68e 2 64m qh 68f 2 64n qh 68g 2 65c qh 68h 2 65d qh 68i 2 65e qh 68j 2 65f qh",
    "68k 2 65g qh 68l 2 65h qh 68m 2 65i qh 68n 2 65j qh 68o 2 65c qh 68p 2 65d qh 68q 2 65e qh 68r",
    "2 65f qh 68s 2 65g qh 68t 2 65h qh 68u 2 65i qh 68v 2 65j qh 68w 2 674 qh 68x 2 675 qh 68y 2",
    "676 qh 68z 2 677 qh 690 2 678 qh 691 2 679 qh 692 2 67a qh 693 2 67b qh 694 2 674 qh 695 2 675",
    "qh 696 2 676 qh 697 2 677 qh 698 2 678 qh 699 2 679 qh 69a 2 67a qh 69b 2 67b qh 69e 2 67k qh",
    "69f 2 q9 qh 69g 2 q4 qh 69i 2 q9 n6 69j 3 q9 n6 qh 69o 2 q9 qh 69u 2 67o qh 69v 2 qf qh 69w 2",
    "q6 qh 69y 2 qf n6 69z 3 qf n6 qh 6a4 2 qf qh 6aa 3 qh lk lc 6ab 3 qh lk ld 6ae 2 qh n6 6af 3 qh",
    "lk n6 6aq 3 qt lk lc 6ar 3 qt lk ld 6as 2 qp lv 6au 2 qt n6 6av 3 qt lk n6 6b6 2 67w qh 6b7 2",
    "qx qh 6b8 2 r2 qh 6ba 2 qx n6 6bb 3 qx n6 qh 6bg 2 qx qh 1dkw 2 2u 2u 1dkx 2 2u 2x 1dky 2 2u 30",
    "1dkz 3 2u 2u 2x 1dl0 3 2u 2u 30 1dl1 2 37 38 1dl2 2 37 38 1dlf 2 12s 12u 1dlg 2 12s 12d 1dlh 2",
    "12s 12j 1dli 2 132 12u 1dlj 2 12s 12l"]

/-- Characters that are upper, lower or title case. -/
def casedClass : CharClass := .ofRuns
  ["1t q 6 q 1b 1 a 1 4 1 5 n 1 v 1 5f 1 4 4 5s 1 10 7 2 u 5 2o 1 16 4 2 2 2 4 1 1 6 1 1 3 1 1 1 k",
    "1 2b 1 3v 8 4m 1 12 9 15 26v 12 1 1 5 1 2 17 2 3 io 2e 2 6 1oi 9 7 17 2 3 1s 5c 1s 7q 2 6 2 12",
    "2 6 2 8 1 1 1 1 1 1 1 v 2 1h 1 7 1 1 3 3 1 7 3 4 2 6 4 d 5 3 1 7 38 1 d 1 g d 2t 1 4 1 2 a 1 1",
    "3 5 6 1 1 1 1 1 1 4 1 6 4 1 2 4 5 5 4 1 h w 3 2 mp 1g 1ee 6d 6 4 3 2 c 12 1 1 5 1 nwy 1a i u 3o",
    "2u 3 4 1 1n 5 2 1 1 1 5 r 2 1 3 mt 17 1 d 7 28 fnk 7 c 5 sp q 6 q x1 28 2o 10 4 10 38 b 1 f 1 7",
    "1 2 1 b 1 f 1 7 1 2 cj 1 2 3 1 16 1 9 xx 1f d 1f 2b1 1s gv4 1s k1s 2d 1 1z 1 2 2 1 2 2 2 4 1 c",
    "1 1 1 7 1 1t 1 4 2 8 1 7 1 s 1 4 1 5 1 1 3 7 1 9g 2 p 1 p 1 v 1 p 1 v 1 p 1 v 1 p 1 v 1 p 1 8",
    "1f8 a 1 k 1y9 1w 1kc q 6 q 6 q"]

/-- Characters that a word's case looks through, such as accents and the apostrophe. -/
def caseIgnorableClass : CharClass := .ofRuns
  ["13 1 6 1 b 1 z 1 1 1 1z 1 4 1 1 1 4 1 2 2 dz 5c 4 2 4 1 9 2 1 1 6z 7 5r 1 5 1 1d 19 1 1 1 2 1 2",
    "1 1 18 1 b 6 a b 1 1 z 1 a l g 1 2t 8 1 a 1 4 x 1 1 1 u r 2j b 1m b 4 1 2 1 o o 17 3 18 1 7 2 6",
    "8 15 1m 1j 1 1 1 4 8 4 1 3 7 a 2 d 1 f 1 1m 1 4 4 8 1 k 2 q 1 2 2 1l 1 4 2 4 2 2 3 3 1 u 2 3 1",
    "b 2 1l 1 4 5 1 2 4 1 k 2 m 6 1 1 1m 1 2 1 1 4 8 1 7 2 b 2 u 1 1p 1 c 1 1e 1 3 1 1j 1 1 3 5 3 1",
    "4 7 2 b 2 t 1 1m 1 2 1 6 1 5 2 k 2 s 2 1l 2 4 4 8 1 k 2 t 1 20 1 7 3 1 1 2i 1 2 7 b 9 2q 1 2 9",
    "9 1 1 6 22 2 r 1 1 1 1 1 1j e 1 5 1 2 5 b 1 10 9 1 2u 4 1 6 1 2 2 2 p 2 4 3 g 4 d 1 2 2 6 1 f 1",
    "2m 1 gw 3 qa 3 t 2 u 2 u 2 1s 2 1 7 8 1 2 b 3 1 5 1 19 5 1f 1 1t 2 y 1 3a 3 4 2 9 1 6 3 63 2 2",
    "1 1m 1 1 7 1 1 1 1 2 8 6 a 2 1 13 1 8 v 1d 4 1c 1 1 5 1 1 5 1 14 9 c 2 w 4 2 2 1 3 1k 1 1 2 3 1",
    "1 3 1m 8 2 2 1s 6 2a 3 1 d 1 7 4 1 6 1 3 2 1e 1r d 1 y 2t cd 1 1 3 b 3 d 3 d 3 d 2 c 5 8 2 a 1",
    "2 1 2 5 1d 5 1 a 1 1 d 1 g d 1f x 2a3 2 35 3 3h 1 f 1 2o w 1b 1 d1 1 10 4 3 5 5 1 2l 6 2l 3 lxy",
    "1 yq 6 7i 1 2q 4 1 a 1 1 s 4 28 2 e y 26 1 n 3 2v 3 3 2 8 1 3 1 4 1 p 2 5 1 47 2 q i d 1 12 8 p",
    "b 1a 3 1c 1 2 4 2 2 h 1 l 2 1u 6 2 2 2 2 c 1 8 1 z 1 b 1 1f 1 1 3 2 2 5 2 1 1 r 1 e 2 5 2 1 1",
    "2s 5 9 3 3d 1 2 1 4 1 fn4 1 43 h fx g 3 1 c g y 1 2 1 4p 1 7 1 6 1 b 1 z 1 1 1 1b 1 19 2 1v 1 l",
    "3 e9 1 6a 1 45 5 sl 6 1 16 1 9 g6 3 1 2 5 4 14 3 4 1 4l 2 fx 4 ar 2 49 b 1d 4 3f 1 1i f 15 1 2",
    "2 a 3 1d 4 2 2 2 1 4 1 a 1 1e 3 10 5 1 8 1q 1 c 2 1g 9 a 4 2 1 2n 3 2 1 1 2 6 1 4g 1 3 8 l 2 1l",
    "2 3 1 11 7 3 5 5f 8 2 3 1 1 n 1 2c 6 1 1 4 2 1 2 6m 4 6 2 1 2 r 2 2d 8 2 1 1 2 2y 1 1 1 2 6 1 1",
    "2t 3 2 4 1 5 77 9 1 2 74 2 1 1 4 1 40 4 2 2 4 1 w a 14 6 2 4 8 1 9 6 2 3 1a d 1 2 ba 7 1 6 1 1",
    "2a m 2 7 1 2 1 2 3e 6 3 1 1 2 1 7 1 1 20 2 3 1 1 1 9n 2 46z 9 at3 5 1n 7 9 4 sr 1 1r h 1s 2 1 2",
    "cnf 4 1 7 1 2 2hq 2 1 4 3mk 1a 2 n f4 3 9 g 2 7 u 4 44 3 1iz 1j 4 1e 8 1 e 1 m 5 1 f 11s 7 1 h",
    "2 7 1 2 1 5 79 e a8 1 1p 4 15s 7 31 8 23z 5 gx6p 1 u 2o 3k 6o"]

/-- Upper case characters. -/
def upperClass : CharClass := .ofRuns
  ["1t q 2t n 1 7 x 1 1 1 1 1 1 1 1 1 1 1 1 1 1 1 1 1 1 1 1 1 1 1 1 1 1 1 1 1 1 1 1 1 1 1 1 1 1 1 1",
    "1 1 1 1 1 1 1 1 1 1 1 1 1 1 1 2 1 1 1 1 1 1 1 1 1 1 1 1 1 1 1 2 1 1 1 1 1 1 1 1 1 1 1 1 1 1 1 1",
    "1 1 1 1 1 1 1 1 1 1 1 1 1 1 1 1 1 1 1 1 1 1 1 1 1 1 1 1 1 1 2 1 1 1 1 3 2 1 1 1 2 1 3 2 4 1 2 1",
    "3 3 2 1 2 1 1 1 1 1 2 1 1 2 1 1 2 1 3 1 1 1 2 3 1 7 1 2 1 2 1 2 1 1 1 1 1 1 1 1 1 1 1 1 1 1 1 2",
    "1 1 1 1 1 1 1 1 1 1 1 1 1 1 1 1 1 2 1 2 1 1 3 1 1 1 1 1 1 1 1 1 1 1 1 1 1 1 1 1 1 1 1 1 1 1 1 1",
    "1 1 1 1 1 1 1 1 1 1 1 1 1 1 1 1 1 1 1 1 1 1 1 1 1 1 1 1 1 1 1 1 1 7 2 1 2 2 1 1 4 1 1 1 1 1 1 1",
    "1 81 1 1 1 3 1 8 1 6 1 1 3 1 1 1 2 1 h 1 9 z 1 2 3 3 1 1 1 1 1 1 1 1 1 1 1 1 1 1 1 1 1 1 1 1 1",
    "1 1 5 1 2 1 1 2 2 1f 1c 1 1 1 1 1 1 1 1 1 1 1 1 1 1 1 1 1 1 1 1 1 1 1 1 1 1 1 1 1 1 1 1 1 9 1 1",
    "1 1 1 1 1 1 1 1 1 1 1 1 1 1 1 1 1 1 1 1 1 1 1 1 1 1 1 1 1 1 1 1 1 1 1 1 1 1 1 1 1 1 1 1 1 1 1 1",
    "1 1 1 1 2 1 1 1 1 1 1 1 1 1 1 1 1 2 1 1 1 1 1 1 1 1 1 1 1 1 1 1 1 1 1 1 1 1 1 1 1 1 1 1 1 1 1 1",
    "1 1 1 1 1 1 1 1 1 1 1 1 1 1 1 1 1 1 1 1 1 1 1 1 1 1 1 1 1 1 1 1 1 1 1 1 1 1 1 1 1 1 1 1 1 1 1 1",
    "1 1 1 1 1 1 1 1 1 1 1 1 1 1 1 1 1 2 12 289 12 1 1 5 1 k2 2e 1p6 17 2 3 8w 1 1 1 1 1 1 1 1 1 1 1",
    "1 1 1 1 1 1 1 1 1 1 1 1 1 1 1 1 1 1 1 1 1 1 1 1 1 1 1 1 1 1 1 1 1 1 1 1 1 1 1 1 1 1 1 1 1 1 1 1",
    "1 1 1 1 1 1 1 1 1 1 1 1 1 1 1 1 1 1 1 1 1 1 1 1 1 1 1 1 1 1 1 1 1 1 1 1 1 1 1 1 1 1 1 1 1 1 1 1",
    "1 1 1 1 1 1 1 1 1 1 1 1 1 1 1 1 1 1 1 1 1 1 1 1 1 1 1 1 1 1 1 1 1 1 1 1 1 1 1 1 1 1 9 1 1 1 1 1",
    "1 1 1 1 1 1 1 1 1 1 1 1 1 1 1 1 1 1 1 1 1 1 1 1 1 1 1 1 1 1 1 1 1 1 1 1 1 1 1 1 1 1 1 1 1 1 1 1",
    "1 1 1 1 1 1 1 1 1 1 1 1 1 1 1 1 1 1 1 1 1 1 1 1 1 1 1 1 1 1 1 1 1 1 1 1 1 1 1 1 1 1 1 1 9 8 8 6",
    "a 8 8 8 8 6 b 1 1 1 1 1 1 1 8 8 20 4 c 4 c 4 c 5 b 4 7a 1 4 1 3 3 2 3 2 1 3 5 6 1 1 1 1 1 1 4 2",
    "4 a 2 5 1 q g j 1 mq q 1f4 1c 1c 1 1 3 2 1 1 1 1 1 1 4 1 1 2 1 8 3 1 1 1 1 1 1 1 1 1 1 1 1 1 1",
    "1 1 1 1 1 1 1 1 1 1 1 1 1 1 1 1 1 1 1 1 1 1 1 1 1 1 1 1 1 1 1 1 1 1 1 1 1 1 1 1 1 1 1 1 1 1 1 1",
    "1 1 1 1 1 1 1 1 1 1 1 1 1 1 1 1 1 1 1 1 1 1 1 1 1 1 1 1 1 1 1 1 1 1 1 1 8 1 1 1 4 1 nyl 1 1 1 1",
    "1 1 1 1 1 1 1 1 1 1 1 1 1 1 1 1 1 1 1 1 1 1 1 1 1 1 1 1 1 1 1 1 1 1 1 1 1 1 1 1 1 j 1 1 1 1 1 1",
    "1 1 1 1 1 1 1 1 1 1 1 1 1 1 1 1 1 1 1 1 1 3r 1 1 1 1 1 1 1 1 1 1 1 1 1 3 1 1 1 1 1 1 1 1 1 1 1",
    "1 1 1 1 1 1 1 1 1 1 1 1 1 1 1 1 1 1 1 1 1 1 1 1 1 1 1 1 1 1 1 1 1 1 1 1 1 1 1 1 1 1 1 1 1 1 1 1",
    "1 1 a 1 1 1 1 2 1 1 1 1 1 1 1 1 4 1 1 1 2 1 1 1 3 1 1 1 1 1 1 1 1 1 1 1 1 1 1 1 1 1 1 1 1 5 1 5",
    "1 1 1 1 1 1 1 1 1 1 1 1 1 1 1 4 1 1 6 1 5 1 1 1 s 1 h7v q xx 14 3s 10 4c b 1 f 1 7 1 2 1d6 1f",
    "2ct w gw0 w k2o q q q q q q 1 1 2 2 1 2 2 2 4 1 8 q q q 2 1 4 2 8 1 7 r 2 1 4 1 5 1 1 3 7 r q q",
    "q q q q q q q q q u p x p x p x p x p x 1 3ed y 1la q 6 q 6 q"]

/-- Lower case characters. -/
def lowerClass : CharClass := .ofRuns
  ["2p q 1b 1 a 1 4 1 10 o 1 8 1 1 1 1 1 1 1 1 1 1 1 1 1 1 1 1 1 1 1 1 1 1 1 1 1 1 1 1 1 1 1 1 1 1",
    "1 1 1 1 1 1 1 1 1 1 1 1 1 1 1 1 1 1 1 1 1 2 1 1 1 1 1 1 1 1 1 1 1 1 1 1 1 2 1 1 1 1 1 1 1 1 1 1",
    "1 1 1 1 1 1 1 1 1 1 1 1 1 1 1 1 1 1 1 1 1 1 1 1 1 1 1 1 1 1 1 1 1 1 1 1 2 1 1 1 1 3 2 1 1 1 2 1",
    "3 2 4 1 2 1 3 3 2 1 2 1 1 1 1 1 2 1 1 2 1 1 2 1 3 1 1 1 2 2 2 3 6 1 2 1 2 1 1 1 1 1 1 1 1 1 1 1",
    "1 1 1 1 1 2 1 1 1 1 1 1 1 1 1 1 1 1 1 1 1 1 1 2 2 1 1 1 3 1 1 1 1 1 1 1 1 1 1 1 1 1 1 1 1 1 1 1",
    "1 1 1 1 1 1 1 1 1 1 1 1 1 1 1 1 1 1 1 1 1 1 1 1 1 1 1 1 1 1 1 1 1 1 1 1 1 1 1 7 2 1 2 2 1 1 4 1",
    "1 1 1 1 1 1 1 1x 1 10 7 2 u 5 2o 1 17 1 1 1 3 1 2 4 i 1 r z 1 2 3 3 1 1 1 1 1 1 1 1 1 1 1 1 1 1",
    "1 1 1 1 1 1 1 1 1 5 1 1 2 1 2 2 1f 1c 1 1 1 1 1 1 1 1 1 1 1 1 1 1 1 1 1 1 1 1 1 1 1 1 1 1 1 1 1",
    "1 1 1 1 1 9 1 1 1 1 1 1 1 1 1 1 1 1 1 1 1 1 1 1 1 1 1 1 1 1 1 1 1 1 1 1 1 1 1 1 1 1 1 1 1 1 1 1",
    "1 1 1 1 1 1 1 1 1 1 1 2 1 1 1 1 1 1 1 1 1 1 1 1 2 1 1 1 1 1 1 1 1 1 1 1 1 1 1 1 1 1 1 1 1 1 1 1",
    "1 1 1 1 1 1 1 1 1 1 1 1 1 1 1 1 1 1 1 1 1 1 1 1 1 1 1 1 1 1 1 1 1 1 1 1 1 1 1 1 1 1 1 1 1 1 1 1",
    "1 1 1 1 1 1 1 1 1 1 1 1 1 1 1 1 1 1 1 1 1 1 1 1 1 1c 15 287 17 2 3 l4 6 1oi 9 3b 5c 1t 1 1 1 1",
    "1 1 1 1 1 1 1 1 1 1 1 1 1 1 1 1 1 1 1 1 1 1 1 1 1 1 1 1 1 1 1 1 1 1 1 1 1 1 1 1 1 1 1 1 1 1 1 1",
    "1 1 1 1 1 1 1 1 1 1 1 1 1 1 1 1 1 1 1 1 1 1 1 1 1 1 1 1 1 1 1 1 1 1 1 1 1 1 1 1 1 1 1 1 1 1 1 1",
    "1 1 1 1 1 1 1 1 1 1 1 1 1 1 1 1 1 1 1 1 1 1 1 1 1 1 1 1 1 1 1 1 1 1 1 1 1 1 1 1 1 1 1 1 1 1 1 1",
    "9 1 1 1 1 1 1 1 1 1 1 1 1 1 1 1 1 1 1 1 1 1 1 1 1 1 1 1 1 1 1 1 1 1 1 1 1 1 1 1 1 1 1 1 1 1 1 1",
    "1 1 1 1 1 1 1 1 1 1 1 1 1 1 1 1 1 1 1 1 1 1 1 1 1 1 1 1 1 1 1 1 1 1 1 1 1 1 1 1 1 1 1 1 1 1 1 1",
    "1 1 9 8 6 a 8 8 8 8 6 a 8 8 8 8 e 2 8 8 8 8 8 8 5 1 2 6 1 3 3 1 2 8 4 2 2 8 8 a 3 1 2 3d 1 d 1",
    "g d 31 1 3 2 3 1 r 1 4 1 4 1 2 2 8 4 4 1 x g 4 1 nf q 1fq 1c 1 1 3 2 1 1 1 1 1 1 4 1 1 2 1 8 3",
    "1 1 1 1 1 1 1 1 1 1 1 1 1 1 1 1 1 1 1 1 1 1 1 1 1 1 1 1 1 1 1 1 1 1 1 1 1 1 1 1 1 1 1 1 1 1 1 1",
    "1 1 1 1 1 1 1 1 1 1 1 1 1 1 1 1 1 1 1 1 1 1 1 1 1 1 1 1 1 1 1 1 1 1 1 1 1 1 1 1 1 1 1 1 1 1 1 1",
    "1 1 2 7 1 1 1 4 1 c 12 1 1 5 1 nwz 1 1 1 1 1 1 1 1 1 1 1 1 1 1 1 1 1 1 1 1 1 1 1 1 1 1 1 1 1 1",
    "1 1 1 1 1 1 1 1 1 1 1 1 1 1 1 j 1 1 1 1 1 1 1 1 1 1 1 1 1 1 1 1 1 1 1 1 1 1 1 1 1 1 3 3p 1 1 1",
    "1 1 1 1 1 1 1 1 1 3 1 1 1 1 1 1 1 1 1 1 1 1 1 1 1 1 1 1 1 1 1 1 1 1 1 1 1 1 1 1 1 1 1 1 1 1 1 1",
    "1 1 1 1 1 1 1 1 1 1 1 1 1 1 1 1 1 1 1 1 1 1 1 a 1 1 1 1 2 1 1 1 1 1 1 1 1 1 4 1 1 1 2 1 1 3 1 1",
    "1 1 1 1 1 1 1 1 1 1 1 1 1 1 1 1 1 1 5 1 5 1 1 1 1 1 1 1 1 1 1 1 1 1 1 1 4 1 1 1 6 1 1 1 1 1 1 1",
    "1 1 s 1 1 3 mt 17 1 d 7 28 fnk 7 c 5 tl q y5 14 3s 10 4b b 1 f 1 7 1 2 cj 1 2 3 1 16 1 9 zp 1f",
    "2bx w gw0 w k2i q q 7 1 i q q q 4 1 1 1 7 1 b q q q q q q q q q q q q q q q q q s s p 1 6 q p 1",
    "6 q p 1 6 q p 1 6 q p 1 6 1 1 1f8 a 1 k 1z7 y"]

/-- Title case characters. -/
def titleClass : CharClass := .ofRuns
  ["cl 1 2 1 2 1 12 1 5ud 8 8 8 8 8 c 1 f 1 1b 1"]

def isUpper (c : Char) : Bool :=
  if c.toNat < 0x80 then c.isUpper else upperClass.contains c

def isLower (c : Char) : Bool :=
  if c.toNat < 0x80 then c.isLower else lowerClass.contains c

def isTitle (c : Char) : Bool :=
  if c.toNat < 0x80 then false else titleClass.contains c

def isCased (c : Char) : Bool :=
  if c.toNat < 0x80 then c.isAlpha else casedClass.contains c

/-- The form of a character under a table, itself when the table is silent. -/
def formOf (runs : ShortForms) (long : Nat → Option (List Char)) (c : Char) : List Char :=
  match long c.toNat with
  | some cs => cs
  | none => [(runs.find? c.toNat).elim c Char.ofNat]

def upperOf (c : Char) : List Char :=
  if c.toNat < 0x80 then [c.toUpper] else formOf upperRuns upperLong.find? c

def lowerOf (c : Char) : List Char :=
  if c.toNat < 0x80 then [c.toLower]
  else formOf lowerRuns (fun n => if n = 0x130 then some ['i', '\u0307'] else none) c

def titleOf (c : Char) : List Char :=
  if c.toNat < 0x80 then [c.toUpper] else formOf titleRuns titleLong.find? c

def foldOf (c : Char) : List Char :=
  if c.toNat < 0x80 then [c.toLower] else formOf foldRuns foldLong.find? c

/-- Is the nearest character that case does not look through a cased one? -/
def nextIsCased (cs : List Char) : Bool :=
  match cs.dropWhile caseIgnorableClass.contains with
  | c :: _ => isCased c
  | [] => false

/-- The lower form of `c` between the characters before it, nearest first, and those after it. -/
def lowerIn (before : List Char) (c : Char) (after : List Char) : List Char :=
  if c = 'Σ' then [if nextIsCased before && !nextIsCased after then 'ς' else 'σ'] else lowerOf c

/-- Rewrites each character by a rule that sees its neighbours on both sides. -/
def mapInContext (rule : List Char → Char → List Char → List Char) (before : List Char) :
    List Char → List Char
  | [] => []
  | c :: cs => rule before c cs ++ mapInContext rule (c :: before) cs

def toUpper (s : String) : String := String.ofList (s.toList.flatMap upperOf)

def toLower (s : String) : String := String.ofList (mapInContext lowerIn [] s.toList)

def foldCase (s : String) : String := String.ofList (s.toList.flatMap foldOf)

/-- Title form after an uncased character, lower form after a cased one. -/
def toTitle (s : String) : String :=
  String.ofList <| mapInContext
    (fun before c after =>
      if (before.head?.map isCased).getD false then lowerIn before c after else titleOf c)
    [] s.toList

/-- The first character in title form and all others in lower form. -/
def capitalize (s : String) : String :=
  String.ofList <| mapInContext
    (fun before c after => if before.isEmpty then titleOf c else lowerIn before c after)
    [] s.toList

def swapCase (s : String) : String :=
  String.ofList <| mapInContext
    (fun before c after =>
      if isUpper c then lowerIn before c after else if isLower c then upperOf c else [c])
    [] s.toList

/-- Some character is upper case and none is lower or title case. -/
def isUpperText (s : String) : Bool :=
  s.toList.any isUpper && !s.toList.any fun c => isLower c || isTitle c

/-- Some character is lower case and none is upper or title case. -/
def isLowerText (s : String) : Bool :=
  s.toList.any isLower && !s.toList.any fun c => isUpper c || isTitle c

/-- Upper and title characters stand after uncased ones only, lower ones after cased ones only. -/
def isTitleText (s : String) : Bool :=
  let (good, _, found) := s.toList.foldl
    (fun (good, afterCased, found) c =>
      if isUpper c || isTitle c then (good && !afterCased, true, true)
      else if isLower c then (good && afterCased, true, true)
      else (good, false, found))
    (true, false, false)
  good && found

end Stencil.Text
