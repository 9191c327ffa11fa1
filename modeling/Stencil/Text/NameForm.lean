import Stencil.Text.Forms

/-!
# One form for names

Names may be written in characters that differ in width, style or composition alone: a ligature and
its letters, a letter with its accent and the two one after the other. All ways to write a name have
one form, in which compatible characters are replaced, marks stand in order, and what can be composed
is composed. The tables cover the characters that a name may hold.
-/
namespace Stencil.Text.NameForm

/-- The forms of characters that have one of a single character. -/
def short : ShortForms := .ofText
  ["4q 1 1 2p 51 1 1 qk 56 1 1 33 an 1 1 37 j4 1 1 2w j5 1 1 h2 j6 1 1 2y j7 1 1 36 j8 1 1 hl j9 1",
    "1 hn ja 1 1 ht jb 1 1 3b jc 1 1 3d kg 1 1 gz kh 1 1 30 ki 1 1 37 kj 1 1 3c kk 1 1 id n4 2 1 lc",
    "n7 1 1 lv ok 1 1 jd p3 1 1 53 r4 1 1 qa r5 1 1 qg r6 1 1 px r7 1 1 pa r8 1 1 q3 r9 1 1 qu ra 1",
    "1 qo s0 1 1 qi s1 2 1 qp s4 1 1 pk s5 1 1 qd s9 1 1 pv 3cs 1 1 3bw 5rg 1 1 1t 5rh 1 1 5i 5ri 2",
    "2 1u 5rl 1 1 1x 5rm 1 1 b2 5rn 8 1 1z 5rw 1 1 27 5rx 1 1 f6 5ry 1 1 28 5rz 1 1 2a 5s0 2 1 2c",
    "5s2 1 1 2f 5s3 1 1 2p 5s4 2 1 gg 5s6 1 1 5qa 5s7 1 1 2q 5s8 2 1 2s 5sa 1 1 gp 5sb 2 1 gr 5sd 1",
    "1 2v 5sf 1 1 2z 5sg 1 1 31 5sh 1 1 97 5si 1 1 33 5sj 1 1 gk 5sk 2 1 5qu 5sm 1 1 34 5sn 2 1 38",
    "5sp 1 1 5r1 5sq 1 1 hb 5sr 1 1 3a 5ss 1 1 5r9 5st 3 1 qa 5sw 2 1 qu 5sy 1 1 2x 5sz 1 1 36 5t0 2",
    "1 39 5t2 2 1 qa 5t4 1 1 qp 5t5 2 1 qu 5tk 1 1 u5 5uj 1 1 gi 5uk 1 1 2r 5ul 1 1 gl 5um 1 1 6o",
    "5un 1 1 gs 5uo 1 1 2u 5up 1 1 gv 5uq 1 1 gx 5ur 1 1 h1 5us 3 1 h4 5uv 1 1 5tn 5uw 1 1 il 5ux 1",
    "1 h9 5uy 1 1 5tx 5uz 1 1 in 5v0 1 1 hd 5v1 1 1 hc 5v2 4 1 he 5v6 1 1 hk 5v7 2 1 hu 5v9 1 1 bv",
    "5va 2 1 i1 5vc 1 1 5r0 5vd 2 1 i3 5vf 1 1 3e 5vg 3 1 i8 5vj 1 1 qg 61n 1 1 601 67l 1 1 q4 67n 1",
    "1 q5 67p 1 1 q6 67r 1 1 q7 67t 1 1 r0 67v 1 1 r1 67x 1 1 r2 69n 1 1 p2 69q 1 1 qh 6a1 1 1 p4",
    "6a3 1 1 p5 6ab 1 1 pc 6aj 1 1 p6 6ar 1 1 q8 6az 1 1 pa 6bd 1 1 p8 6bf 1 1 pb 6ep 1 1 2x 6f3 1 1",
    "32 6fk 1 1 2p 6fl 1 1 2t 6fm 1 1 33 6fn 1 1 3c 6fo 1 1 gp 6fp 1 1 2w 6fq 4 1 2z 6fu 1 1 34 6fv",
    "2 1 37 6iq 1 1 1v 6iv 1 1 b4 6iy 1 1 2v 6iz 1 1 20 6j0 1 1 20 6j1 1 1 20 6j2 1 1 2w 6j3 1 1 87",
    "6j4 1 1 21 6j5 1 1 21 6j6 1 1 24 6j7 1 1 30 6j9 1 1 26 6jd 3 1 28 6jg 1 1 2a 6jh 1 1 2a 6jo 1 1",
    "2i 6jq 1 1 q1 6js 1 1 2i 6ju 1 1 23 6jv 1 1 5h 6jw 2 1 1u 6jz 1 1 2t 6k0 2 1 1x 6k3 1 1 25 6k4",
    "1 1 33 6k5 4 1 15c 6k9 1 1 2x 6kc 1 1 qo 6kd 1 1 qb 6ke 1 1 pf 6kf 1 1 ps 6kl 1 1 1w 6km 2 1 2s",
    "6ko 2 1 2x 6lc 1 1 21 6lg 1 1 2e 6ll 1 1 2g 6lo 1 1 24 6lp 2 1 1v 6lr 1 1 25 6ls 1 1 2x 6lw 1 1",
    "3a 6m1 1 1 3c 6m4 1 1 30 6m5 2 1 2r 6m7 1 1 31 8sc 1 1 2y 8sd 1 1 2e 8z3 1 1 8yp 9iw 1 1 gg1",
    "9ix 2 1 gg4 9pt 2 1 3cw 9pv 1 1 3hm 9pw 1 1 3cy 9px 2 1 3ho 9pz 3 1 3cz 9q2 6 1 3hs 9q8 1 1 3dm",
    "9q9 3 1 3d2 9qc 1 1 3dt 9qd a 1 3d5 9qn l 1 3fl 9r8 1 1 3fk 9r9 2 1 3dg 9rb 2 1 3if 9rd 1 1 3ik",
    "9re 1 1 3im 9rf 1 1 3ir 9rg 1 1 3iv 9rh 1 1 3ix 9ri 1 1 3do 9rj 1 1 3j1 9rk 1 1 3j3 9rl 2 1 3dp",
    "9rn 1 1 3ds 9ro 2 1 3du 9rq 1 1 3dz 9rr 1 1 3e1 9rs 5 1 3e3 9rx 1 1 3ea 9ry 1 1 3ee 9rz 1 1 3eo",
    "9s0 1 1 3ev 9s1 1 1 3f0 9s2 2 1 3jl 9s4 3 1 3fb 9s7 2 1 3gk 9s9 1 1 3go 9sa 2 1 3gx 9sc 1 1 3h0",
    "9sd 1 1 3ha 9se 1 1 3hd wws 1 1 ui wwt 1 1 uk x2o 1 1 x2n x6a 1 1 1v x6b 1 1 1y x6c 1 1 29 x6g",
    "1 1 86 x6h 1 1 9f xuk 1 1 x0n xul 1 1 xtj xum 1 1 h7 xun 1 1 xua xux 1 1 i5 1d6o 1 1 rpk 1d6p 1",
    "1 kc4 1d6q 1 1 s7e 1d6r 1 1 rt4 1d6s 1 1 lw1 1d6t 1 1 fg2 1d6u 1 1 gkl 1d6v 1 1 vj0 1d6w 1 1",
    "vj0 1d6x 1 1 hn5 1d6y 1 1 ssx 1d6z 1 1 gw7 1d70 1 1 hmw 1d71 1 1 jcm 1d72 1 1 ne1 1d73 1 1 p6t",
    "1d74 1 1 qin 1d75 1 1 qt6 1d76 1 1 r20 1d77 1 1 sjz 1d78 1 1 kxu 1d79 1 1 ljv 1d7a 1 1 mah 1d7b",
    "1 1 mvy 1d7c 1 1 q4d 1d7d 1 1 sq2 1d7e 1 1 uep 1d7f 1 1 fia 1d7g 1 1 ghh 1d7h 1 1 l50 1d7i 1 1",
    "mjf 1d7j 1 1 qi5 1d7k 1 1 v8e 1d7l 1 1 ifk 1d7m 1 1 m3v 1d7n 1 1 qfh 1d7o 1 1 r50 1d7p 1 1 jih",
    "1d7q 1 1 pnc 1d7r 1 1 qvz 1d7s 1 1 iq2 1d7t 1 1 kd3 1d7u 1 1 lm2 1d7v 1 1 mpo 1d7w 1 1 slq 1d7x",
    "1 1 fpi 1d7y 1 1 g53 1d7z 1 1 gda 1d80 1 1 jwk 1d81 1 1 l3n 1d82 1 1 mj4 1d83 1 1 nhj 1d84 1 1",
    "pa9 1d85 1 1 qh2 1d86 1 1 qjg 1d87 1 1 s1b 1d88 1 1 tv6 1d89 1 1 upb 1d8a 1 1 v7e 1d8b 1 1 nt8",
    "1d8c 1 1 nzz 1d8d 1 1 otc 1d8e 1 1 q15 1d8f 1 1 t1g 1d8g 1 1 vb3 1d8h 1 1 rfa 1d8i 1 1 hjz 1d8j",
    "1 1 iro 1d8k 1 1 okg 1d8l 1 1 pdq 1d8m 1 1 mle 1d8n 1 1 nuy 1d8o 1 1 rsy 1d8p 1 1 ttj 1d8q 1 1",
    "hjs 1d8r 1 1 i8y 1d8s 1 1 kyb 1d8t 1 1 lp6 1d8u 1 1 lxr 1d8v 1 1 oq7 1d8w 1 1 oxj 1d8x 1 1 tor",
    "1d8y 1 1 gcy 1d8z 1 1 pe3 1d90 1 1 g64 1d91 1 1 g5o 1d92 1 1 o4c 1d93 1 1 ou6 1d94 1 1 q29 1d95",
    "1 1 tpx 1d96 1 1 rk0 1d97 1 1 jin 1d98 1 1 kxu 1d99 1 1 rge 1d9a 1 1 fg9 1d9b 1 1 i5j 1d9c 1 1",
    "iz6 1d9d 1 1 mtj 1d9e 1 1 n74 1d9f 1 1 gev 1d9g 1 1 nwb 1d9h 1 1 fr3 1d9i 1 1 iw9 1d9j 1 1 ff1",
    "1d9k 1 1 lho 1d9l 1 1 k1k 1d9m 1 1 opu 1d9n 1 1 gjn 1d9o 1 1 hge 1d9p 1 1 ni9 1d9q 1 1 q4p 1d9r",
    "1 1 re2 1d9s 1 1 la2 1d9t 1 1 sds 1d9u 1 1 lfs 1d9v 1 1 jjy 1d9w 1 1 put 1d9x 1 1 jog 1d9y 1 1",
    "n6t 1d9z 1 1 fji 1da0 1 1 g2x 1da1 1 1 g5l 1da2 1 1 kn5 1da3 1 1 oo7 1da4 1 1 prj 1da5 1 1 rf6",
    "1da6 1 1 ssv 1da7 1 1 gdx 1da8 1 1 gn6 1da9 1 1 ho3 1daa 1 1 ir0 1dab 1 1 k3p 1dac 1 1 m4e 1dad",
    "1 1 nxm 1dae 1 1 tkd 1daf 1 1 ui2 1dag 1 1 vbr 1dah 1 1 vda 1dai 1 1 gbf 1daj 1 1 kau 1dak 1 1",
    "l87 1dal 1 1 sbm 1dam 1 1 ino 1dan 1 1 j9s 1dao 1 1 jcw 1dap 1 1 jve 1daq 1 1 lyb 1dar 1 1 mdl",
    "1das 1 1 n0p 1dat 1 1 o22 1dau 1 1 ovo 1dav 1 1 pdb 1daw 1 1 s9y 1dax 1 1 q9a 1day 1 1 sgz 1daz",
    "1 1 t3e 1db0 1 1 g7r 1db1 1 1 gbn 1db2 1 1 gql 1db3 1 1 ma0 1db4 1 1 r0i 1db5 1 1 re2 1db6 1 1",
    "iq1 1db7 1 1 iyd 1db8 1 1 jnf 1db9 1 1 l9q 1dba 1 1 oji 1dbb 1 1 mt1 1dbc 1 1 fl0 1dbd 1 1 h6h",
    "1dbe 1 1 i5j 1dbf 1 1 iii 1dbg 1 1 izg 1dbh 1 1 muq 1dbi 1 1 mzt 1dbj 1 1 p7e 1dbk 1 1 pc6 1dbl",
    "1 1 svo 1dbm 1 1 tti 1dbn 1 1 tvs 1dbo 1 1 u1k 1dbp 1 1 fpn 1dbq 1 1 o1a 1dbr 1 1 ss4 1dbs 1 1",
    "trs 1dbt 1 1 j4x 1dbu 1 1 fie 1dbv 1 1 fyy 1dbw 1 1 i5q 1dbx 1 1 i7z 1dby 1 1 k2h 1dbz 1 1 kxu",
    "1dc0 1 1 mha 1dc1 1 1 ncy 1dc2 1 1 q9o 1dc3 1 1 sjg 1dc4 1 1 vil 1dc5 1 1 k94 1dc6 1 1 tny 1dc7",
    "1 1 gax 1dc8 1 1 kfv 1dc9 1 1 kj7 1dca 1 1 lkx 1dcb 1 1 luk 1dcc 1 1 mx5 1dcd 1 1 n6h 1dce 1 1",
    "nsb 1dcf 1 1 opc 1dcg 1 1 u3i 1dch 1 1 g31 1dci 1 1 je6 1dcj 1 1 tq0 1dck 1 1 fu3 1dcl 1 1 ie1",
    "1dcm 1 1 lpm 1dcn 1 1 sa2 1dco 1 1 ivf 1dcp 1 1 j7o 1dcq 1 1 kk7 1dcr 1 1 mtj 1dcs 1 1 tqe 1dct",
    "1 1 g89 1dcu 1 1 glr 1dcv 1 1 i91 1dcw 1 1 k5v 1dcx 1 1 kem 1dcy 1 1 ko8 1dcz 1 1 lid 1dd0 1 1",
    "mx2 1dd1 1 1 naa 1dd2 1 1 p6h 1dd3 1 1 r0v 1dd4 1 1 r1d 1dd5 1 1 sss 1dd6 1 1 tsy 1dd7 1 1 gfz",
    "1dd8 1 1 lve 1dd9 1 1 gm5 1dda 1 1 mhc 1ddb 1 1 n14 1ddc 1 1 qgq 1ddd 1 1 tr7 1dde 1 1 uvr 1ddf",
    "1 1 vbz 1ddg 1 1 kgn 1ddh 1 1 lor 1ddi 1 1 pns 1ddj 1 1 o97 1ddk 1 1 obk 1ddl 1 1 olu 1ddm 1 1",
    "mo0 1ddn 1 1 m8p 1ddo 1 1 riw 1ddp 1 1 fk0 1ddq 1 1 px2 1ddr 1 1 g8q 1dds 1 1 g7b 1ddt 1 1 ip2",
    "1ddu 1 1 jir 1ddv 1 1 onq 1ddw 1 1 i2t 1ddx 1 1 ljy 1ddy 1 1 kac 1ddz 1 1 saj 1de0 1 1 qx8 1de1",
    "1 1 tot 1de2 1 1 r63 1de3 1 1 iqb 1de4 1 1 g1s 1de5 1 1 gxs 1de8 1 1 hga 1dea 1 1 k8k 1ded 1 1",
    "g66 1dee 1 1 mqy 1def 1 1 ngq 1deg 1 1 ny4 1deh 1 1 nz2 1dei 1 1 nz9 1dej 1 1 o0f 1dek 1 1 tw6",
    "1del 1 1 on2 1dem 1 1 p8d 1deo 1 1 qhe 1deq 1 1 rg8 1det 1 1 shk 1deu 1 1 sn1 1dey 1 1 u7j 1dez",
    "1 1 u7w 1df0 1 1 u94 1df1 1 1 v5g 1df2 1 1 sm6 1df3 1 1 trr 1df4 1 1 fqm 1df5 1 1 fzb 1df6 1 1",
    "g25 1df7 1 1 gcp 1df8 1 1 gdg 1df9 1 1 ggh 1dfa 1 1 gwt 1dfb 1 1 gzq 1dfc 1 1 h2g 1dfd 1 1 hfk",
    "1dfe 1 1 hig 1dff 1 1 i90 1dfg 1 1 i9a 1dfh 1 1 j2s 1dfi 1 1 j8o 1dfj 1 1 j9q 1dfk 1 1 jci 1dfl",
    "1 1 k0f 1dfm 1 1 k4i 1dfn 1 1 k9d 1dfo 1 1 kn9 1dfp 1 1 lmf 1dfq 1 1 lqy 1dfr 1 1 lya 1dfs 1 1",
    "mem 1dft 1 1 mjv 1dfu 1 1 mxu 1dfv 1 1 ntd 1dfw 1 1 ny6 1dfx 1 1 nyh 1dfy 1 1 nyg 1dfz 1 1 nyo",
    "1dg0 1 1 nyu 1dg1 1 1 nz1 1dg2 2 1 o0d 1dg4 1 1 o5c 1dg5 1 1 o75 1dg6 1 1 og0 1dg7 1 1 ovo 1dg8",
    "1 1 ow9 1dg9 1 1 oxt 1dga 1 1 p6a 1dgb 1 1 pad 1dgc 1 1 pnx 1dgd 1 1 prt 1dge 1 1 prt 1dgf 1 1",
    "q53 1dgg 1 1 r2o 1dgh 1 1 r6e 1dgi 1 1 rgh 1dgj 1 1 ri1 1dgk 1 1 rtf 1dgl 1 1 ruw 1dgm 1 1 sdy",
    "1dgn 1 1 shk 1dgo 1 1 tsz 1dgp 1 1 u0v 1dgq 1 1 u2j 1dgr 1 1 j1x 1dgs 1 1 36cu 1dgt 1 1 pp4",
    "1dgw 1 1 ffq 1dgx 1 1 g51 1dgy 1 1 g2w 1dgz 1 1 fpc 1dh0 1 1 g1x 1dh1 1 1 g3k 1dh2 1 1 gcn 1dh3",
    "1 1 ge2 1dh4 1 1 gwt 1dh5 1 1 gut 1dh6 1 1 gwp 1dh7 1 1 gyq 1dh8 1 1 hga 1dh9 1 1 hir 1dha 1 1",
    "hms 1dhb 1 1 hn8 1dhc 1 1 huq 1dhd 1 1 i08 1dhe 1 1 iqa 1dhf 1 1 iqh 1dhg 1 1 iuh 1dhh 1 1 iwd",
    "1dhi 1 1 j4o 1dhj 1 1 j7y 1dhk 1 1 j60 1dhl 1 1 j9q 1dhm 1 1 j8g 1dhn 1 1 jci 1dho 1 1 jec 1dhp",
    "1 1 jpg 1dhq 1 1 jrw 1dhr 1 1 jte 1dhs 1 1 k0m 1dht 1 1 k8k 1dhu 1 1 kd3 1dhv 1 1 kd7 1dhw 1 1",
    "keu 1dhx 1 1 l89 1dhy 1 1 la2 1dhz 1 1 lkx 1di0 1 1 lwb 1di1 1 1 lvv 1di2 1 1 lya 1di3 1 1 m5a",
    "1di4 1 1 mem 1di5 1 1 nmv 1di6 1 1 mk5 1di7 1 1 mnj 1di8 1 1 mqy 1di9 1 1 n01 1dia 1 1 n46 1dib",
    "1 1 n5n 1dic 1 1 nbx 1did 1 1 nbz 1die 1 1 ngq 1dif 1 1 nh7 1dig 1 1 nhw 1dih 1 1 nka 1dii 1 1",
    "nk0 1dij 1 1 nv0 1dik 1 1 o8h 1dil 1 1 og0 1dim 1 1 ol7 1din 1 1 orf 1dio 1 1 ovo 1dip 1 1 p4u",
    "1diq 1 1 pad 1dir 1 1 pxu 1dis 1 1 q27 1dit 1 1 qrd 1diu 1 1 r41 1div 1 1 r5y 1diw 1 1 r6e 1dix",
    "1 1 ren 1diy 1 1 rg8 1diz 1 1 rez 1dj0 1 1 rgh 1dj1 1 1 rge 1dj2 1 1 rfx 1dj3 1 1 ri1 1dj4 1 1",
    "rka 1dj5 1 1 ruw 1dj6 1 1 sag 1dj7 1 1 sj6 1dj8 1 1 srd 1dj9 1 1 sxi 1dja 1 1 tq4 1djb 1 1 tsz",
    "1djc 1 1 tw6 1djd 1 1 tzv 1dje 1 1 u0v 1djf 1 1 u17 1djg 1 1 u2j 1djh 1 1 umq 1dji 1 1 vj0 1djj",
    "1 1 313e 1djk 1 1 3138 1djl 1 1 33dh 1djm 1 1 brx 1djn 1 1 cns 1djo 1 1 cop 1djp 1 1 39e1 1djq",
    "1 1 3bgw 1djr 1 1 3i6r 1djs 1 1 vgj 1djt 1 1 vim 1dls 1 1 15u 1dlt 1 1 15c 1dlu 2 1 15f 1dlw 3",
    "1 15n 1dlz 1 1 160 1dm0 1 1 162 1dn4 1 1 19t 1dn5 1 1 19t 1dn6 1 1 1a3 1dn7 1 1 1a3 1dn8 1 1",
    "1a3 1dn9 1 1 1a3 1dna 1 1 1a6 1dnb 1 1 1a6 1dnc 1 1 1a6 1dnd 1 1 1a6 1dne 1 1 1a8 1dnf 1 1 1a8",
    "1dng 1 1 1a8 1dnh 1 1 1a8 1dni 1 1 1a2 1dnj 1 1 1a2 1dnk 1 1 1a2 1dnl 1 1 1a2 1dnm 1 1 1a7 1dnn",
    "1 1 1a7 1dno 1 1 1a7 1dnp 1 1 1a7 1dnq 1 1 1a1 1dnr 1 1 1a1 1dns 1 1 1a1 1dnt 1 1 1a1 1dnu 1 1",
    "1b8 1dnv 1 1 1b8 1dnw 1 1 1b8 1dnx 1 1 1b8 1dny 1 1 1ba 1dnz 1 1 1ba 1do0 1 1 1ba 1do1 1 1 1ba",
    "1do2 1 1 1ac 1do3 1 1 1ac 1do4 1 1 1ac 1do5 1 1 1ac 1do6 1 1 1ab 1do7 1 1 1ab 1do8 1 1 1ab 1do9",
    "1 1 1ab 1doa 1 1 1ae 1dob 1 1 1ae 1doc 1 1 1ae 1dod 2 1 1ae 1dof 1 1 1af 1dog 1 1 1af 1doh 1 1",
    "1af 1doi 1 1 1al 1doj 1 1 1al 1dok 1 1 1ak 1dol 1 1 1ak 1dom 1 1 1am 1don 1 1 1am 1doo 1 1 1ag",
    "1dop 1 1 1ag 1doq 1 1 1aw 1dor 1 1 1aw 1dos 1 1 1ap 1dot 1 1 1ap 1dou 1 1 1bd 1dov 1 1 1bd 1dow",
    "1 1 1bd 1dox 1 1 1bd 1doy 1 1 1bj 1doz 1 1 1bj 1dp0 1 1 1bj 1dp1 1 1 1bj 1dp2 1 1 1bn 1dp3 1 1",
    "1bn 1dp4 1 1 1bn 1dp5 1 1 1bn 1dp6 1 1 1bl 1dp7 1 1 1bl 1dp8 1 1 1bl 1dp9 1 1 1bl 1dpa 1 1 1bu",
    "1dpb 2 1 1bu 1dpd 1 1 1bv 1dpe 1 1 1bv 1dpf 1 1 1bv 1dpg 1 1 1c0 1dph 2 1 1c0 1dpj 1 1 1c1 1dpk",
    "1 1 1c1 1dpl 1 1 1c1 1dpm 1 1 1by 1dpn 1 1 1by 1dpo 1 1 1by 1dpp 1 1 1by 1dpq 1 1 1ci 1dpr 2 1",
    "1ci 1dpt 1 1 1cj 1dqr 1 1 1bh 1dqs 1 1 1bh 1dqt 1 1 1bh 1dqu 1 1 1bh 1dqv 1 1 1c7 1dqw 1 1 1c7",
    "1dqx 1 1 1c6 1dqy 1 1 1c6 1dqz 1 1 1c8 1dr0 1 1 1c8 1dr2 1 1 1cb 1dr3 1 1 1cb 1dr4 1 1 1c5 1dr5",
    "1 1 1c5 1dr6 1 1 1c9 1dr7 1 1 1c9 1dr8 1 1 1cg 1dr9 1 1 1cg 1dra 1 1 1cg 1drb 1 1 1cg 1drc 1 1",
    "18p 1drd 1 1 18p 1drw 1 1 1cc 1drx 1 1 1cc 1dry 1 1 1cc 1drz 1 1 1cc 1e7n 1 1 2n 1e7o 1 1 2n",
    "1e8d 1 1 2n 1e8e 1 1 2n 1e8f 1 1 2n 1e9s 2 1 17l 1e9u 2 1 17m 1e9w 2 1 17n 1e9y 2 1 17o 1ea0 2",
    "1 17p 1ea2 1 1 17q 1ea3 1 1 17q 1ea4 2 1 17q 1ea6 2 1 17r 1ea8 1 1 17s 1ea9 1 1 17s 1eaa 2 1",
    "17s 1eac 2 1 17t 1eae 1 1 17u 1eaf 1 1 17u 1eag 2 1 17u 1eai 1 1 17v 1eaj 1 1 17v 1eak 2 1 17v",
    "1eam 1 1 17w 1ean 1 1 17w 1eao 2 1 17w 1eaq 1 1 17x 1ear 1 1 17x 1eas 2 1 17x 1eau 1 1 17y 1eav",
    "1 1 17y 1eaw 2 1 17y 1eay 2 1 17z 1eb0 2 1 180 1eb2 2 1 181 1eb4 2 1 182 1eb6 1 1 183 1eb7 1 1",
    "183 1eb8 2 1 183 1eba 1 1 184 1ebb 1 1 184 1ebc 2 1 184 1ebe 1 1 185 1ebf 1 1 185 1ebg 2 1 185",
    "1ebi 1 1 186 1ebj 1 1 186 1ebk 2 1 186 1ebm 1 1 187 1ebn 1 1 187 1ebo 2 1 187 1ebq 1 1 188 1ebr",
    "1 1 188 1ebs 2 1 188 1ebu 1 1 189 1ebv 1 1 189 1ebw 2 1 189 1eby 1 1 18a 1ebz 1 1 18a 1ec0 1 1",
    "18a 1ec1 1 1 18h 1ec2 1 1 18h 1ec3 1 1 18h 1ec4 2 1 18h 1ec6 1 1 18i 1ec7 1 1 18i 1ec8 2 1 18i",
    "1eca 1 1 18j 1ecb 1 1 18j 1ecc 2 1 18j 1ece 1 1 18k 1ecf 1 1 18k 1ecg 2 1 18k 1eci 1 1 18l 1ecj",
    "1 1 18l 1eck 2 1 18l 1ecm 1 1 18m 1ecn 1 1 18m 1eco 2 1 18m 1ecq 1 1 18n 1ecr 1 1 18n 1ecs 2 1",
    "18n 1ecu 2 1 18o 1ecw 2 1 18p 1ecy 1 1 18q 1ecz 1 1 18q 1ed0 1 1 18q 1eds a 1 1c 1ee9 q 1 1t",
    "1ef3 2 2 2n 1ef6 p 1 2q 1eg6 1 1 9o2 1eg7 1 1 9lt 1eg8 1 1 9lv 1eg9 1 1 9lx 1ega 1 1 9lz 1egb 1",
    "1 9m1 1egc 1 1 9nn 1egd 1 1 9np 1ege 1 1 9nr 1egf 1 1 9mr 1egg 1 1 9oc 1egh 1 1 9lu 1egi 1 1",
    "9lw 1egj 1 1 9ly 1egk 1 1 9m0 1egl 2 1 9m2 1egn 1 1 9m5 1ego 1 1 9m7 1egp 1 1 9m9 1egq 1 1 9mb",
    "1egr 1 1 9md 1egs 1 1 9mf 1egt 1 1 9mh 1egu 1 1 9mj 1egv 1 1 9ml 1egw 1 1 9mn 1egx 1 1 9mp 1egy",
    "1 1 9ms 1egz 1 1 9mu 1eh0 1 1 9mw 1eh1 6 1 9my 1eh7 1 1 9n6 1eh8 1 1 9n9 1eh9 1 1 9nc 1eha 1 1",
    "9nf 1ehb 5 1 9ni 1ehg 1 1 9no 1ehh 1 1 9nq 1ehi 6 1 9ns 1eho 1 1 9nz 1ehp 1 1 9o3 1ehq 2 1 9ll",
    "1ehs 1 1 3fk 1eht 2 1 3cw 1ehv 1 1 3hm 1ehw 1 1 3cy 1ehx 2 1 3ho 1ehz 3 1 3cz 1ei2 6 1 3hs 1ei8",
    "1 1 3dm 1ei9 3 1 3d2 1eic 1 1 3dt 1eid a 1 3d5 1eiq 6 1 3fl 1eiy 6 1 3fr 1ej6 6 1 3fx 1eje 3 1",
    "3g3 1g1t 2 1 k0 1g1v 1 1 6e 1g1w 1 1 ih 1g1x 1 1 gj 1g1z 1 1 ir 1g20 1 1 xuu 1g21 1 1 it 1g22 1",
    "1 is 1g23 2 1 gm 1g25 1 1 5u9 1g26 1 1 go 1g27 1 1 gu 1g28 1 1 ix 1g29 1 1 h0 1g2a 1 1 gy 1g2b",
    "1 1 gw 1g2c 1 1 ij 1g2d 1 1 87 1g2e 1 1 ik 1g2f 1 1 h3 1g2g 1 1 hw 1g2h 2 1 iy 1g2j 1 1 h8 1g2k",
    "1 1 2mmc 1g2l 1 1 x3i 1g2m 1 1 ha 1g2n 1 1 2mmd 1g2o 1 1 i6 1g2p 1 1 2mme 1g2q 1 1 6w 1g2r 2 1",
    "hi 1g2t 1 1 35 1g2u 1 1 hm 1g2v 1 1 2mmg 1g2w 2 1 hp 1g2y 1 1 hs 1g2z 1 1 iw 1g30 1 1 iu 1g31 1",
    "1 xuv 1g32 1 1 iv 1g33 1 1 i0 1g34 1 1 8s1 1g36 1 1 i7 1g37 2 1 ip 1g39 1 1 ig 1g3a 3 1 cg 1g3d",
    "1 1 2mmi 1g3e 1 1 2mn2 2kg0 q 1 1t 2kgq q 1 2p 2khg q 1 1t 2ki6 7 1 2p 2kie i 1 2x 2kiw q 1 1t",
    "2kjm q 1 2p 2kkc 2 2 1t 2kkf 1 1 1w 2kki 1 1 1z 2kkl 2 1 22 2kkp 4 1 26 2kku 8 1 2b 2kl2 4 1 2p",
    "2kl7 2 2 2u 2kla 6 1 2x 2klh b 1 34 2kls q 1 1t 2kmi q 1 2p 2kn8 2 1 1t 2knb 4 1 1w 2knh 8 1 22",
    "2knq 7 1 2b 2kny q 1 2p 2koo 2 1 1t 2kor 4 1 1w 2kow 5 1 21 2kp2 1 1 27 2kp6 7 1 2b 2kpe q 1 2p",
    "2kq4 q 1 1t 2kqu q 1 2p 2krk q 1 1t 2ksa q 1 2p 2kt0 q 1 1t 2ktq q 1 2p 2kug q 1 1t 2kv6 q 1 2p",
    "2kvw q 1 1t 2kwm q 1 2p 2kxc q 1 1t 2ky2 q 1 2p 2kys 1 1 8h 2kyt 1 1 fr 2kyw h 1 pd 2kzd 1 1 pk",
    "2kze 7 1 pv 2kzm p 1 q9 2l0c 1 1 qd 2l0d 1 1 qg 2l0e 1 1 qi 2l0f 1 1 qu 2l0g 1 1 qp 2l0h 1 1 qo",
    "2l0i h 1 pd 2l0z 1 1 pk 2l10 7 1 pv 2l18 p 1 q9 2l1y 1 1 qd 2l1z 1 1 qg 2l20 1 1 qi 2l21 1 1 qu",
    "2l22 1 1 qp 2l23 1 1 qo 2l24 h 1 pd 2l2l 1 1 pk 2l2m 7 1 pv 2l2u p 1 q9 2l3k 1 1 qd 2l3l 1 1 qg",
    "2l3m 1 1 qi 2l3n 1 1 qu 2l3o 1 1 qp 2l3p 1 1 qo 2l3q h 1 pd 2l47 1 1 pk 2l48 7 1 pv 2l4g p 1 q9",
    "2l56 1 1 qd 2l57 1 1 qg 2l58 1 1 qi 2l59 1 1 qu 2l5a 1 1 qp 2l5b 1 1 qo 2l5c h 1 pd 2l5t 1 1 pk",
    "2l5u 7 1 pv 2l62 p 1 q9 2l6s 1 1 qd 2l6t 1 1 qg 2l6u 1 1 qi 2l6v 1 1 qu 2l6w 1 1 qp 2l6x 1 1 qo",
    "2l6y 2 1 rg 2l72 a 1 1c 2l7c a 1 1c 2l7m a 1 1c 2l7w a 1 1c 2l86 a 1 1c 2pkw 2 1 17r 2pky 1 1",
    "17w 2pkz 1 1 17z 2pl1 1 1 18o 2pl2 1 1 182 2pl3 1 1 17x 2pl4 1 1 187 2pl5 1 1 18q 2pl6 4 1 18j",
    "2pla 1 1 183 2plb 1 1 189 2plc 1 1 18h 2pld 1 1 185 2ple 1 1 18i 2plf 1 1 181 2plg 1 1 184 2plh",
    "2 1 17u 2plj 1 1 17y 2plk 1 1 180 2pll 1 1 186 2plm 1 1 188 2pln 1 1 18a 2plo 1 1 19q 2plp 1 1",
    "1bu 2plq 1 1 1b5 2plr 1 1 19r 2plt 1 1 17s 2plu 1 1 17w 2plw 1 1 18n 2plz 1 1 17x 2pm1 1 1 18q",
    "2pm2 4 1 18j 2pm6 1 1 183 2pm7 1 1 189 2pm8 1 1 18h 2pm9 1 1 185 2pma 1 1 18i 2pmc 1 1 184 2pmd",
    "2 1 17u 2pmf 1 1 17y 2pmh 1 1 186 2pmj 1 1 18a 2pmq 1 1 17w 2pmv 1 1 17x 2pmx 1 1 18q 2pmz 2 2",
    "18k 2pn2 1 1 183 2pn3 1 1 189 2pn5 1 1 185 2pn6 1 1 18i 2pn8 1 1 184 2pnb 1 1 17y 2pnd 1 1 186",
    "2pnf 1 1 18a 2pnh 1 1 1bu 2pnj 1 1 19r 2pnl 1 1 17s 2pnm 1 1 17w 2pno 1 1 18n 2pnr 1 1 17x 2pns",
    "1 1 187 2pnt 1 1 18q 2pnu 2 2 18j 2pnx 1 1 18m 2pny 1 1 183 2pnz 1 1 189 2po0 1 1 18h 2po1 1 1",
    "185 2po2 1 1 18i 2po4 1 1 184 2po5 2 1 17u 2po7 1 1 17y 2po9 1 1 186 2poa 1 1 188 2pob 1 1 18a",
    "2poc 1 1 19q 2poe 1 1 1b5 2pog 2 1 17r 2poi 1 1 17w 2poj 1 1 17z 2pok 2 1 18n 2pom 1 1 182 2pon",
    "1 1 17x 2poo 1 1 187 2pop 1 1 18q 2por 3 1 18k 2pou 1 1 183 2pov 1 1 189 2pow 1 1 18h 2pox 1 1",
    "185 2poy 1 1 18i 2poz 1 1 181 2pp0 1 1 184 2pp1 2 1 17u 2pp3 1 1 17y 2pp4 1 1 180 2pp5 1 1 186",
    "2pp6 1 1 188 2pp7 1 1 18a 2ppd 1 1 17s 2ppe 1 1 17w 2ppf 1 1 17z 2pph 1 1 18o 2ppi 1 1 182 2ppj",
    "1 1 17x 2ppk 1 1 187 2ppl 1 1 18q 2ppn 3 1 18k 2ppq 1 1 183 2ppr 1 1 189 2pps 1 1 18h 2ppt 1 1",
    "185 2ppu 1 1 18i 2ppv 1 1 181 2ppw 1 1 184 2ppx 2 1 17u 2ppz 1 1 17y 2pq0 1 1 180 2pq1 1 1 186",
    "2pq2 1 1 188 2pq3 1 1 18a 2sc0 a 1 1c 464g 1 1 fgd 464h 1 1 fg8 464i 1 1 fgh 464j 1 1 2tcy 464k",
    "1 1 fog 464l 1 1 fqm 464m 1 1 fqz 464n 1 1 fsy 464o 1 1 fwa 464p 1 1 fx5 464q 1 1 fzb 464r 1 1",
    "fyn 464s 1 1 ae6 464t 1 1 2ud6 464u 1 1 g25 464v 1 1 g2c 464w 1 1 g2s 464x 1 1 g3b 464y 1 1",
    "2u58 464z 1 1 aex 4650 1 1 g2v 4651 1 1 g3x 4652 1 1 2u6j 4653 1 1 g47 4654 1 1 g4k 4655 1 1",
    "fkc 4656 1 1 g4s 4657 1 1 g51 4658 1 1 3ly7 4659 1 1 g6t 465a 1 1 g77 465b 1 1 afz 465c 1 1 g8r",
    "465d 1 1 g92 465e 1 1 gaa 465f 1 1 gaf 465g 1 1 ahh 465h 1 1 gcn 465i 1 1 gcp 465j 1 1 gdg 465k",
    "1 1 ge2 465l 2 1 ged 465n 1 1 gev 465o 1 1 gg9 465p 1 1 ggh 465q 1 1 ggq 465r 1 1 ghf 465s 1 1",
    "ghp 465t 1 1 ghr 465u 1 1 ghr 465v 1 1 ghr 465w 1 1 2v58 465x 1 1 m7k 465y 1 1 gju 465z 1 1 gkf",
    "4660 1 1 2vdv 4661 1 1 gkr 4662 1 1 gkx 4663 1 1 gli 4664 1 1 gpq 4665 1 1 gmw 4666 1 1 gnc",
    "4667 1 1 go8 4668 1 1 gpu 4669 1 1 gs6 466a 1 1 gsw 466b 1 1 gur 466c 1 1 gv7 466d 1 1 gw4 466e",
    "1 1 gw4 466f 1 1 gwp 466g 1 1 gx7 466h 1 1 gxf 466i 1 1 gxu 466j 1 1 h7a 466k 1 1 gzq 466l 1 1",
    "h7b 466m 1 1 h1t 466n 1 1 h2s 466o 1 1 g7b 466p 1 1 hke 466q 1 1 hce 466r 1 1 hdg 466s 1 1 he5",
    "466t 1 1 haj 466u 1 1 hf6 466v 1 1 hf5 466w 1 1 hik 466x 1 1 2x9g 466y 1 1 hki 466z 1 1 hkn",
    "4670 1 1 hl2 4671 1 1 hlm 4672 1 1 hlu 4673 1 1 hnm 4674 1 1 2xm0 4675 1 1 2xnu 4676 1 1 hrg",
    "4677 1 1 hsr 4678 1 1 ht3 4679 1 1 hqw 467a 1 1 huu 467b 1 1 aum 467c 1 1 av0 467d 1 1 hzc 467e",
    "1 1 i0u 467f 1 1 i0u 467g 1 1 2y88 467h 1 1 i4j 467i 1 1 i54 467j 1 1 i5j 467k 1 1 i5v 467l 1 1",
    "2yhk 467m 1 1 i67 467n 1 1 i6e 467o 1 1 itv 467p 1 1 i76 467q 1 1 ayp 467r 1 1 i8w 467s 1 1 i9a",
    "467t 1 1 ibk 467u 1 1 ia5 467v 1 1 2z1g 467w 1 1 if7 467x 1 1 2z1i 467y 1 1 ige 467z 1 1 igb",
    "4680 1 1 igs 4681 2 1 ijl 4683 1 1 b3j 4684 1 1 ikd 4685 1 1 ilk 4686 1 1 im5 4687 1 1 ind 4688",
    "1 1 b4y 4689 1 1 2zr7 468a 1 1 b5o 468b 1 1 ipc 468c 1 1 ipf 468d 1 1 ipi 468e 1 1 iq2 468f 1 1",
    "3pg2 468g 1 1 iri 468h 1 1 3035 468i 1 1 3035 468j 1 1 poh 468k 1 1 isi 468l 1 1 isi 468m 1 1",
    "b7r 468n 1 1 335k 468o 1 1 3cgq 468p 1 1 iua 468q 1 1 iuj 468r 1 1 b8j 468s 1 1 ivu 468t 1 1",
    "ix9 468u 1 1 ixj 468v 1 1 iyh 468w 1 1 j29 468x 1 1 bay 468y 1 1 ba4 468z 1 1 j2s 4690 1 1 30t0",
    "4691 1 1 j47 4692 1 1 j7s 4693 1 1 j7w 4694 1 1 j7y 4695 1 1 j7w 4696 1 1 j96 4697 1 1 j9q 4698",
    "1 1 jaq 4699 1 1 jac 469a 1 1 jan 469b 1 1 jby 469c 1 1 jci 469d 1 1 jcm 469e 1 1 jdc 469f 1 1",
    "jdn 469g 1 1 jfh 469h 1 1 jht 469i 1 1 jis 469j 1 1 jm8 469k 1 1 31n0 469l 1 1 jlp 469m 1 1 jjw",
    "469n 1 1 jmw 469o 1 1 jnn 469p 1 1 jqc 469q 1 1 31td 469r 1 1 js2 469s 1 1 jph 469t 1 1 jop",
    "469u 1 1 bhq 469v 1 1 ju1 469w 1 1 jum 469x 1 1 jvh 469y 1 1 juf 469z 1 1 bjg 46a0 1 1 k0f 46a1",
    "1 1 k18 46a2 1 1 32mi 46a3 1 1 k4j 46a4 1 1 kc8 46a5 1 1 k7d 46a6 1 1 bo9 46a7 1 1 k9d 46a8 1 1",
    "bns 46a9 1 1 bms 46aa 1 1 g42 46ab 1 1 g45 46ac 1 1 kcg 46ad 1 1 k9o 46ae 1 1 pf1 46af 1 1 deh",
    "46ag 1 1 kd3 46ah 1 1 kd7 46ai 1 1 kdd 46aj 1 1 kf2 46ak 1 1 ker 46al 1 1 33cz 46am 1 1 bpl",
    "46an 1 1 kje 46ao 1 1 kg5 46ap 1 1 klu 46aq 1 1 kn9 46ar 1 1 33hp 46as 1 1 kni 46at 1 1 kkf",
    "46au 1 1 kr8 46av 1 1 brx 46aw 1 1 ksi 46ax 1 1 kv7 46ay 1 1 kx6 46az 1 1 l2g 46b0 1 1 33xf",
    "46b1 1 1 l3v 46b2 1 1 bvc 46b3 1 1 l5t 46b4 1 1 34br 46b5 1 1 l78 46b6 1 1 bwu 46b7 1 1 l82",
    "46b8 1 1 l9b 46b9 2 1 la2 46bb 1 1 34p9 46bc 1 1 2yvf 46bd 1 1 34sa 46be 1 1 le6 46bf 1 1 354s",
    "46bg 1 1 lhb 46bh 1 1 lhp 46bi 1 1 lev 46bj 1 1 ljq 46bk 1 1 lku 46bl 1 1 lmf 46bm 1 1 lkx 46bn",
    "1 1 lm1 46bo 1 1 lmg 46bp 1 1 lmt 46bq 1 1 357i 46br 1 1 lkk 46bs 1 1 lrj 46bt 1 1 lta 46bu 1 1",
    "c37 46bv 1 1 lvv 46bw 1 1 lvr 46bx 1 1 35jl 46by 1 1 lq1 46bz 1 1 m0e 46c0 1 1 35ni 46c1 1 1",
    "35ou 46c2 1 1 m2u 46c3 1 1 m61 46c4 1 1 m5a 46c5 1 1 m57 46c6 1 1 c5y 46c7 1 1 m6i 46c8 1 1 m7x",
    "46c9 1 1 m7r 46ca 1 1 m99 46cb 1 1 2u5h 46cc 1 1 mdh 46cd 1 1 368z 46ce 1 1 mfw 46cf 1 1 36i3",
    "46cg 1 1 mjs 46ch 1 1 mk5 46ci 1 1 mkw 46cj 1 1 36yw 46ck 1 1 mm8 46cl 1 1 mmt 46cm 1 1 3779",
    "46cn 1 1 37dg 46co 1 1 mt6 46cp 1 1 mtn 46cq 1 1 cdo 46cr 1 1 mud 46cs 1 1 ce0 46ct 1 1 ce0",
    "46cu 1 1 myv 46cv 1 1 mzg 46cw 1 1 n01 46cx 1 1 n0l 46cy 1 1 n2i 46cz 1 1 cgr 46d0 1 1 n50 46d1",
    "1 1 386u 46d2 1 1 n5q 46d3 1 1 389e 46d4 1 1 n74 46d5 1 1 2zrz 46d6 1 1 nbk 46d7 1 1 38v5 46d8",
    "1 1 38vs 46d9 1 1 38zo 46da 1 1 cn0 46db 1 1 cnc 46dc 1 1 nhw 46dd 1 1 394j 46de 1 1 394i 46df",
    "1 1 395l 46dg 1 1 396b 46dh 2 1 nj2 46dj 1 1 nj3 46dk 1 1 nka 46dl 1 1 cop 46dm 1 1 nm3 46dn 1",
    "1 cp2 46do 1 1 cra 46dp 1 1 39r1 46dq 1 1 nri 46dr 1 1 nt8 46ds 1 1 nv0 46dt 1 1 ctf 46du 1 1",
    "3a5i 46dv 1 1 nyu 46dw 1 1 3a8q 46dx 1 1 3a9x 46dy 1 1 o0f 46dz 1 1 o2z 46e0 1 1 cvj 46e1 1 1",
    "o5c 46e2 1 1 o5m 46e3 1 1 o5r 46e4 1 1 3at8 46e5 1 1 3b1j 46e6 1 1 3b1j 46e7 1 1 oa6 46e8 1 1",
    "d1e 46e9 1 1 3b8r 46ea 1 1 og6 46eb 1 1 og9 46ec 1 1 d2f 46ed 1 1 3beo 46ee 1 1 onm 46ef 1 1",
    "d5s 46eg 1 1 oo8 46eh 1 1 oo3 46ei 1 1 oow 46ej 1 1 3c06 46ek 1 1 orn 46el 1 1 d8h 46em 1 1 ouf",
    "46en 1 1 ow2 46eo 1 1 oxx 46ep 1 1 d9w 46eq 1 1 3ciw 46er 1 1 3cjr 46es 1 1 dax 46et 1 1 3cnt",
    "46eu 1 1 p6i 46ev 1 1 3cqm 46ew 1 1 p79 46ex 1 1 pa2 46ey 1 1 pad 46ez 1 1 3d22 46f0 1 1 3d43",
    "46f1 1 1 pcw 46f2 1 1 3d7s 46f3 1 1 pdc 46f4 1 1 33a7 46f5 1 1 ded 46f6 1 1 pf6 46f7 1 1 phf",
    "46f8 1 1 dfv 46f9 1 1 pj2 46fa 1 1 hx1 46fb 1 1 3dlz 46fc 1 1 3dmd 46fd 1 1 33bn 46fe 1 1 33bw",
    "46ff 1 1 poh 46fg 1 1 pok 46fh 1 1 sda 46fi 1 1 dij 46fj 1 1 psh 46fk 1 1 psb 46fl 1 1 pst 46fm",
    "1 1 gc3 46fn 1 1 ptd 46fo 1 1 ptf 46fp 1 1 ptp 46fq 1 1 puu 46fr 1 1 3ebg 46fs 1 1 put 46ft 1 1",
    "pwd 46fu 1 1 pyb 46fv 1 1 q0d 46fw 1 1 pwj 46fx 1 1 q0t 46fy 1 1 q1z 46fz 1 1 q53 46g0 1 1 pxv",
    "46g1 1 1 q16 46g2 1 1 q18 46g3 1 1 q1o 46g4 1 1 3eie 46g5 1 1 3eqz 46g6 1 1 3emt 46g7 1 1 dnv",
    "46g8 1 1 q9d 46g9 1 1 q9f 46ga 1 1 qae 46gb 1 1 3g0a 46gc 1 1 qck 46gd 1 1 3f3g 46ge 1 1 dp9",
    "46gf 1 1 dpd 46gg 1 1 3f75 46gh 1 1 3ff6 46gi 1 1 dpn 46gj 1 1 qj4 46gk 1 1 qjg 46gl 1 1 qjr",
    "46gm 1 1 qjt 46gn 1 1 qll 46go 1 1 qko 46gp 1 1 qoe 46gq 1 1 qn6 46gr 1 1 qrd 46gs 1 1 qp4 46gt",
    "1 1 qqz 46gu 1 1 qrq 46gv 1 1 dsn 46gw 1 1 qu9 46gx 1 1 qv5 46gy 1 1 dtl 46gz 1 1 qxs 46h0 1 1",
    "qxv 46h1 1 1 3giv 46h2 1 1 r13 46h3 1 1 r1a 46h4 1 1 dv9 46h5 1 1 r22 46h6 1 1 aez 46h7 1 1",
    "3gz2 46h8 1 1 3h46 46h9 1 1 dz2 46ha 1 1 dzb 46hb 1 1 rds 46hc 1 1 rfx 46hd 1 1 rka 46he 1 1",
    "rpx 46hf 1 1 3hrc 46hg 1 1 rsb 46hh 1 1 rsx 46hi 1 1 rvf 46hj 1 1 rxz 46hk 1 1 3i9b 46hl 1 1",
    "2upw 46hm 1 1 s0b 46hn 1 1 rzw 46ho 1 1 s1c 46hp 1 1 2uvy 46hq 1 1 s7o 46hr 1 1 sag 46hs 1 1",
    "3jki 46ht 1 1 3jl9 46hu 1 1 sk4 46hv 1 1 smp 46hw 1 1 snl 46hx 1 1 3ju6 46hy 1 1 snv 46hz 1 1",
    "svs 46i0 2 1 t07 46i2 1 1 sxo 46i3 1 1 t89 46i4 1 1 t91 46i5 1 1 3ksa 46i6 1 1 tjf 46i7 1 1 ej9",
    "46i8 1 1 tkn 46i9 1 1 3l2v 46ia 1 1 eli 46ib 1 1 ts3 46ic 1 1 iia 46id 1 1 tur 46ie 1 1 3ltx",
    "46if 1 1 3lzu 46ig 1 1 epa 46ih 1 1 epi 46ii 1 1 u00 46ij 1 1 3mdm 46ik 1 1 er6 46il 1 1 3mhi",
    "46im 1 1 u17 46in 1 1 u17 46io 1 1 u21 46ip 1 1 3mpi 46iq 1 1 u76 46ir 1 1 eur 46is 1 1 u95",
    "46it 1 1 ucn 46iu 1 1 ude 46iv 1 1 uf2 46iw 1 1 ez2 46ix 1 1 3nsg 46iy 1 1 umq 46iz 1 1 uv4",
    "46j0 1 1 v0d 46j1 1 1 f66 46j2 1 1 f71 46j3 1 1 v3b 46j4 1 1 3owe 46j5 1 1 f7c 46j6 1 1 3oxx",
    "46j7 1 1 3p5a 46j8 1 1 3p8x 46j9 1 1 vcr 46ja 1 1 f9y 46jb 1 1 veh 46jc 1 1 vem 46jd 1 1 vet",
    "46je 1 1 vf3 46jf 1 1 vfa 46jg 1 1 vgb 46jh 1 1 3pxc"]

/-- The forms of characters that have one of several characters. -/
def long : LongForms := .ofText
  ["8i 2 21 22 8j 2 2x 2y 8v 2 24 53 8w 2 30 53 95 2 jg 32 ck 2 1w al cl 2 1w am cm 2 2s am cn 2 24",
    "22 co 2 24 2y cp 2 30 2y cq 2 26 22 cr 2 26 2y cs 2 32 2y dt 2 1w 2i du 2 1w 3e dv 2 2s 3e n8 2",
    "lk ld 13b 2 12d 136 19x 2 17r 19w 19y 2 18o 19w 19z 2 1c7 19w 1a0 2 18q 19w 1ug 2 1sl 1to 1uh 2",
    "1sm 1to 1ui 2 1sn 1to 1uj 2 1ss 1to 1uk 2 1sx 1to 1ul 2 1sy 1to 1um 2 1t7 1to 1un 2 1tb 1to 1y4",
    "2 1wh 1x8 1y5 2 1wi 1x8 1y7 2 1wv 1x8 20j 2 20i 20s 20m 2 20o 20s 21l 2 1zq 20s 21m 2 1zr 20s",
    "21n 2 1zw 20s 21q 2 20b 20s 28s 2 275 27w 28t 2 276 27w 2sz 2 2tp 2sy 2wj 2 2x9 2wi 2xo 2 2wb",
    "2vt 2xp 2 2wb 2w1 30j 2 30i 33r 30t 2 30s 33r 30y 2 30x 33r 313 2 312 33r 318 2 317 33r 31l 2",
    "30g 33p 31v 2 31t 31u 31x 2 31t 31w 31y 2 33m 328 31z 3 33m 31t 328 320 2 33n 328 321 3 33n 31t",
    "328 329 2 31t 328 32r 2 32q 33r 331 2 330 33r 336 2 335 33r 33b 2 33a 33r 33g 2 33f 33r 33t 2",
    "32o 33p 61m 2 2p ji 6ld 2 21 21 6le 3 21 21 21 6lf 2 21 2e 6lh 2 2e 21 6li 3 2e 21 21 6lj 4 2e",
    "21 21 21 6lk 2 21 2g 6lm 2 2g 21 6ln 3 2g 21 21 6lt 2 2x 2x 6lu 3 2x 2x 2x 6lv 2 2x 3a 6lx 2 3a",
    "2x 6ly 3 3a 2x 2x 6lz 4 3a 2x 2x 2x 6m0 2 2x 3c 6m2 2 3c 2x 6m3 3 3c 2x 2x 9lr 2 9l4 9l6 9of 2",
    "9mb 9mw 1dkw 2 2u 2u 1dkx 2 2u 2x 1dky 2 2u 30 1dkz 3 2u 2u 2x 1dl0 3 2u 2u 30 1dl1 2 37 38",
    "1dl2 2 37 38 1dlf 2 12s 12u 1dlg 2 12s 12d 1dlh 2 12s 12j 1dli 2 132 12u 1dlj 2 12s 12l 1dlp 2",
    "15l 14k 1dlr 2 16a 14n 1dm2 2 161 14x 1dm3 2 161 14y 1dm4 3 161 14s 14x 1dm5 3 161 14s 14y 1dm6",
    "2 15c 14n 1dm7 2 15c 14o 1dm8 2 15c 14s 1dm9 2 15d 14s 1dma 2 15e 14s 1dmb 2 15f 14s 1dmc 2 15g",
    "14s 1dmd 2 15h 14s 1dme 2 15i 14s 1dmg 2 15k 14s 1dmh 2 15l 14s 1dmi 2 15m 14s 1dmj 2 15n 14s",
    "1dmk 2 15o 14s 1dmm 2 15q 14s 1dmo 2 15s 14s 1dmp 2 15t 14s 1dmr 2 15v 14s 1dms 2 15w 14s 1dmu",
    "2 15y 14s 1dmv 2 15z 14s 1dmw 2 160 14s 1dmx 2 161 14s 1dmy 2 162 14s 1dmz 2 15h 14p 1dn0 2 15d",
    "14v 1dn1 2 15n 14v 1dn2 2 15w 14v 1dn3 2 15c 15o 1dr1 2 1c7 19w 1dre 2 17q 17r 1drf 2 17q 17r",
    "1drg 2 17q 1cl 1drh 2 17q 1cl 1dri 2 17q 18o 1drj 2 17q 18o 1drk 2 17q 1c7 1drl 2 17q 1c7 1drm",
    "2 17q 1c6 1drn 2 17q 1c6 1dro 2 17q 1c8 1drp 2 17q 1c8 1drq 2 17q 1cg 1drr 2 17q 1cg 1drs 2 17q",
    "1cg 1drt 2 17q 18p 1dru 2 17q 18p 1drv 2 17q 18p 1ds0 2 17q 17w 1ds1 2 17q 17x 1ds2 2 17q 18l",
    "1ds3 2 17q 18p 1ds4 2 17q 18q 1ds5 2 17s 17w 1ds6 2 17s 17x 1ds7 2 17s 17y 1ds8 2 17s 18l 1ds9",
    "2 17s 18p 1dsa 2 17s 18q 1dsb 2 17u 17w 1dsc 2 17u 17x 1dsd 2 17u 17y 1dse 2 17u 18l 1dsf 2 17u",
    "18p 1dsg 2 17u 18q 1dsh 2 17v 17w 1dsi 2 17v 18l 1dsj 2 17v 18p 1dsk 2 17v 18q 1dsl 2 17w 17x",
    "1dsm 2 17w 18l 1dsn 2 17x 17w 1dso 2 17x 18l 1dsp 2 17y 17w 1dsq 2 17y 17x 1dsr 2 17y 18l 1dss",
    "2 183 17w 1dst 2 183 17x 1dsu 2 183 17y 1dsv 2 183 18l 1dsw 2 185 17x 1dsx 2 185 18l 1dsy 2 186",
    "17w 1dsz 2 186 17x 1dt0 2 186 17y 1dt1 2 186 18l 1dt2 2 187 17x 1dt3 2 187 18l 1dt4 2 188 18l",
    "1dt5 2 189 17w 1dt6 2 189 18l 1dt7 2 18a 17w 1dt8 2 18a 18l 1dt9 2 18h 17w 1dta 2 18h 17x 1dtb",
    "2 18h 17y 1dtc 2 18h 18l 1dtd 2 18h 18p 1dte 2 18h 18q 1dtf 2 18i 17x 1dtg 2 18i 18l 1dth 2 18i",
    "18p 1dti 2 18i 18q 1dtj 2 18j 17r 1dtk 2 18j 17w 1dtl 2 18j 17x 1dtm 2 18j 17y 1dtn 2 18j 18k",
    "1dto 2 18j 18l 1dtp 2 18j 18p 1dtq 2 18j 18q 1dtr 2 18k 17w 1dts 2 18k 17x 1dtt 2 18k 17y 1dtu",
    "2 18k 18l 1dtv 2 18k 18p 1dtw 2 18k 18q 1dtx 2 18l 17w 1dty 2 18l 17x 1dtz 2 18l 17y 1du0 2 18l",
    "18l 1du1 2 18l 18p 1du2 2 18l 18q 1du3 2 18m 17w 1du4 2 18m 17x 1du5 2 18m 17y 1du6 2 18m 18l",
    "1du7 2 18m 18p 1du8 2 18m 18q 1du9 2 18n 17w 1dua 2 18n 18l 1dub 2 18n 18p 1duc 2 18n 18q 1dud",
    "2 18q 17w 1due 2 18q 17x 1duf 2 18q 17y 1dug 2 18q 18l 1duh 2 18q 18p 1dui 2 18q 18q 1duj 2 180",
    "19s 1duk 2 181 19s 1dul 2 18p 19s 1dus 2 17q 181 1dut 2 17q 182 1duu 2 17q 18l 1duv 2 17q 18m",
    "1duw 2 17q 18p 1dux 2 17q 18q 1duy 2 17s 181 1duz 2 17s 182 1dv0 2 17s 18l 1dv1 2 17s 18m 1dv2",
    "2 17s 18p 1dv3 2 17s 18q 1dv4 2 17u 181 1dv5 2 17u 182 1dv6 2 17u 18l 1dv7 2 17u 18m 1dv8 2 17u",
    "18p 1dv9 2 17u 18q 1dva 2 17v 181 1dvb 2 17v 182 1dvc 2 17v 18l 1dvd 2 17v 18m 1dve 2 17v 18p",
    "1dvf 2 17v 18q 1dvg 2 18h 18p 1dvh 2 18h 18q 1dvi 2 18i 18p 1dvj 2 18i 18q 1dvk 2 18j 17r 1dvl",
    "2 18j 18k 1dvm 2 18j 18l 1dvn 2 18j 18p 1dvo 2 18j 18q 1dvp 2 18k 18l 1dvq 2 18k 18p 1dvr 2 18k",
    "18q 1dvs 2 18l 17r 1dvt 2 18l 18l 1dvu 2 18m 181 1dvv 2 18m 182 1dvw 2 18m 18l 1dvx 2 18m 18m",
    "1dvy 2 18m 18p 1dvz 2 18m 18q 1dw0 2 18p 19s 1dw1 2 18q 181 1dw2 2 18q 182 1dw3 2 18q 18l 1dw4",
    "2 18q 18m 1dw5 2 18q 18p 1dw6 2 18q 18q 1dw7 2 17q 17w 1dw8 2 17q 17x 1dw9 2 17q 17y 1dwa 2 17q",
    "18l 1dwb 2 17q 18n 1dwc 2 17s 17w 1dwd 2 17s 17x 1dwe 2 17s 17y 1dwf 2 17s 18l 1dwg 2 17s 18n",
    "1dwh 2 17u 17w 1dwi 2 17u 17x 1dwj 2 17u 17y 1dwk 2 17u 18l 1dwl 2 17u 18n 1dwm 2 17v 18l 1dwn",
    "2 17w 17x 1dwo 2 17w 18l 1dwp 2 17x 17w 1dwq 2 17x 18l 1dwr 2 17y 17w 1dws 2 17y 18l 1dwt 2 183",
    "17w 1dwu 2 183 17x 1dwv 2 183 17y 1dww 2 183 18l 1dwx 2 185 17x 1dwy 2 185 17y 1dwz 2 185 18l",
    "1dx0 2 186 17w 1dx1 2 186 17x 1dx2 2 186 17y 1dx3 2 186 18l 1dx4 2 187 17x 1dx5 2 188 18l 1dx6",
    "2 189 17w 1dx7 2 189 18l 1dx8 2 18a 17w 1dx9 2 18a 18l 1dxa 2 18h 17w 1dxb 2 18h 17x 1dxc 2 18h",
    "17y 1dxd 2 18h 18l 1dxe 2 18i 17x 1dxf 2 18i 18l 1dxg 2 18j 17w 1dxh 2 18j 17x 1dxi 2 18j 17y",
    "1dxj 2 18j 18k 1dxk 2 18j 18l 1dxl 2 18k 17w 1dxm 2 18k 17x 1dxn 2 18k 17y 1dxo 2 18k 18l 1dxp",
    "2 18k 18n 1dxq 2 18l 17w 1dxr 2 18l 17x 1dxs 2 18l 17y 1dxt 2 18l 18l 1dxu 2 18m 17w 1dxv 2 18m",
    "17x 1dxw 2 18m 17y 1dxx 2 18m 18l 1dxy 2 18m 18n 1dxz 2 18n 17w 1dy0 2 18n 18l 1dy1 2 18n 19s",
    "1dy2 2 18q 17w 1dy3 2 18q 17x 1dy4 2 18q 17y 1dy5 2 18q 18l 1dy6 2 18q 18n 1dy7 2 17q 18l 1dy8",
    "2 17q 18n 1dy9 2 17s 18l 1dya 2 17s 18n 1dyb 2 17u 18l 1dyc 2 17u 18n 1dyd 2 17v 18l 1dye 2 17v",
    "18n 1dyf 2 183 18l 1dyg 2 183 18n 1dyh 2 184 18l 1dyi 2 184 18n 1dyj 2 18j 18k 1dyk 2 18j 18l",
    "1dyl 2 18k 18l 1dym 2 18m 18l 1dyn 2 18m 18n 1dyo 2 18q 18l 1dyp 2 18q 18n 1dyq 3 18g 18u 18x",
    "1dyr 3 18g 18v 18x 1dys 3 18g 18w 18x 1dyt 2 187 18p 1dyu 2 187 18q 1dyv 2 189 18p 1dyw 2 189",
    "18q 1dyx 2 18a 18p 1dyy 2 18a 18q 1dyz 2 183 18p 1dz0 2 183 18q 1dz1 2 184 18p 1dz2 2 184 18q",
    "1dz3 2 17x 18p 1dz4 2 17x 18q 1dz5 2 17w 18p 1dz6 2 17w 18q 1dz7 2 17y 18p 1dz8 2 17y 18q 1dz9",
    "2 185 18p 1dza 2 185 18q 1dzb 2 186 18p 1dzc 2 186 18q 1dzd 2 184 17w 1dze 2 184 17x 1dzf 2 184",
    "17y 1dzg 2 184 18l 1dzh 2 184 181 1dzi 2 183 181 1dzj 2 185 181 1dzk 2 186 181 1dzl 2 187 18p",
    "1dzm 2 187 18q 1dzn 2 189 18p 1dzo 2 189 18q 1dzp 2 18a 18p 1dzq 2 18a 18q 1dzr 2 183 18p 1dzs",
    "2 183 18q 1dzt 2 184 18p 1dzu 2 184 18q 1dzv 2 17x 18p 1dzw 2 17x 18q 1dzx 2 17w 18p 1dzy 2 17w",
    "18q 1dzz 2 17y 18p 1e00 2 17y 18q 1e01 2 185 18p 1e02 2 185 18q 1e03 2 186 18p 1e04 2 186 18q",
    "1e05 2 184 17w 1e06 2 184 17x 1e07 2 184 17y 1e08 2 184 18l 1e09 2 184 181 1e0a 2 183 181 1e0b",
    "2 185 181 1e0c 2 186 181 1e0d 2 184 17w 1e0e 2 184 17x 1e0f 2 184 17y 1e0g 2 184 18l 1e0h 2 183",
    "18n 1e0i 2 184 18n 1e0j 2 187 18l 1e0k 2 183 17w 1e0l 2 183 17x 1e0m 2 183 17y 1e0n 2 184 17w",
    "1e0o 2 184 17x 1e0p 2 184 17y 1e0q 2 187 18l 1e0r 2 188 18l 1e0s 2 17r 18r 1e0t 2 17r 18r 1e1c",
    "3 17u 17w 18l 1e1d 3 17u 17x 17w 1e1e 3 17u 17x 17w 1e1f 3 17u 17x 18l 1e1g 3 17u 17y 18l 1e1h",
    "3 17u 18l 17w 1e1i 3 17u 18l 17x 1e1j 3 17u 18l 17y 1e1k 3 17w 18l 17x 1e1l 3 17w 18l 17x 1e1m",
    "3 17x 18l 18q 1e1n 3 17x 18l 18p 1e1o 3 183 17x 17w 1e1p 3 183 17w 17x 1e1q 3 183 17w 18p 1e1r",
    "3 183 18l 17x 1e1s 3 183 18l 17x 1e1t 3 183 18l 17w 1e1u 3 183 18l 18l 1e1v 3 183 18l 18l 1e1w",
    "3 185 17x 17x 1e1x 3 185 17x 17x 1e1y 3 185 18l 18l 1e1z 3 184 17x 18l 1e20 3 184 17x 18l 1e21",
    "3 184 17w 18q 1e22 3 184 18l 17y 1e23 3 184 18l 17y 1e24 3 184 18l 18l 1e25 3 184 18l 18l 1e26",
    "3 186 17x 18p 1e27 3 186 17y 18l 1e28 3 186 17y 18l 1e29 3 187 18l 17x 1e2a 3 187 18l 17x 1e2b",
    "3 187 18l 18l 1e2c 3 187 18l 18q 1e2d 3 189 17w 18l 1e2e 3 189 18l 18l 1e2f 3 189 18l 18l 1e2g",
    "3 189 18l 18p 1e2h 3 18a 18l 18l 1e2i 3 18a 18l 18q 1e2j 3 18a 18l 18p 1e2k 3 18h 17y 18l 1e2l",
    "3 18h 17y 18l 1e2m 3 18i 18l 17x 1e2n 3 18i 18l 18l 1e2o 3 18k 17x 18l 1e2p 3 18k 17x 18q 1e2q",
    "3 18k 17x 18p 1e2r 3 18k 17w 17w 1e2s 3 18k 17w 17w 1e2t 3 18k 17y 18l 1e2u 3 18k 17y 18l 1e2v",
    "3 18k 18l 17x 1e2w 3 18k 18l 17x 1e2x 3 18l 17x 17w 1e2y 3 18l 17x 18l 1e2z 3 18l 17x 18q 1e30",
    "3 18l 17w 17x 1e31 3 18l 17w 18l 1e32 3 18l 17y 17w 1e33 3 18l 17y 18l 1e36 3 18l 17w 17y 1e37",
    "3 18n 18l 17w 1e38 3 18n 18l 18l 1e39 3 18m 17x 18l 1e3a 3 18m 17x 18p 1e3b 3 18m 17w 18l 1e3c",
    "3 18m 17w 18l 1e3d 3 18m 17w 18p 1e3e 3 18m 18l 18q 1e3f 3 18m 18l 18p 1e3g 3 18q 18l 18l 1e3h",
    "3 18q 18l 18l 1e3i 3 17s 17y 18q 1e3j 3 17u 17w 18q 1e3k 3 17u 17w 18p 1e3l 3 17u 17y 18q 1e3m",
    "3 17u 17y 18p 1e3n 3 17u 18l 18q 1e3o 3 17u 18l 18p 1e3p 3 17w 18l 18q 1e3q 3 17w 17x 18p 1e3r",
    "3 17w 18l 18p 1e3s 3 183 17y 18p 1e3t 3 185 17x 18q 1e3u 3 184 17x 18q 1e3v 3 186 17x 18q 1e3w",
    "3 18k 17w 18q 1e3x 3 18k 18l 18q 1e3y 3 18q 17x 18q 1e3z 3 18q 17w 18q 1e40 3 18q 18l 18q 1e41",
    "3 18l 18l 18q 1e42 3 18i 18l 18q 1e43 3 18m 17x 18q 1e44 3 18i 18l 17x 1e45 3 18k 17x 18l 1e46",
    "3 189 18l 18q 1e47 3 18j 18l 18q 1e48 3 18m 17w 17x 1e49 3 18l 17y 18q 1e4a 3 18k 17w 18l 1e4b",
    "3 18j 18l 18l 1e4c 3 18k 17w 18l 1e4d 3 18m 17w 17x 1e4e 3 17w 17x 18q 1e4f 3 17x 17w 18q 1e4g",
    "3 18l 17w 18q 1e4h 3 18h 18l 18q 1e4i 3 17s 17x 18q 1e4j 3 18j 18l 18l 1e4k 3 189 17w 18l 1e4l",
    "3 185 18l 18l 1e4m 3 183 17y 18q 1e4n 3 18m 17w 18q 1e5s 3 185 18k 1ci 1e5t 3 18i 18k 1ci 1e5u",
    "4 17r 18k 18k 18n 1e5v 4 17r 18j 17s 181 1e5w 4 18l 17x 18l 17z 1e5x 4 185 18k 189 18l 1e5y 4",
    "181 183 18o 18k 1e5z 4 189 18k 18q 18n 1e60 4 18o 183 18k 18l 1e61 3 185 18k 18p 1e9d 2 18g 18r",
    "1e9j 2 18g 18u 1e9l 2 18g 18v 1e9n 2 18g 18w 1e9p 2 18g 18x 1e9r 2 18g 18y 1ed1 2 18k 17m 1ed2",
    "2 18k 17m 1ed3 2 18k 17n 1ed4 2 18k 17n 1ed5 2 18k 17p 1ed6 2 18k 17p 1ed7 2 18k 17r 1ed8 2 18k",
    "17r"]

/-- A table of numbers in rows of three. -/
def rows (lines : List String) : List (Nat × Nat × Nat) :=
  let numbers := CharClass.numbers lines
  (List.range (numbers.size / 3)).map fun i =>
    (numbers.getD (3 * i) 0, numbers.getD (3 * i + 1) 0, numbers.getD (3 * i + 2) 0)

/-- Composed characters, each with the two characters that it is composed of. -/
def composites : List (Nat × Nat × Nat) := rows
  ["5c 1t lc 5d 1t ld 5e 1t le 5f 1t lf 5g 1t lk 5h 1t lm 5j 1v mf 5k 1x lc 5l 1x ld 5m 1x le 5n 1x",
    "lk 5o 21 lc 5p 21 ld 5q 21 le 5r 21 lk 5t 26 lf 5u 27 lc 5v 27 ld 5w 27 le 5x 27 lf 5y 27 lk 61",
    "2d lc 62 2d ld 63 2d le 64 2d lk 65 2h ld 68 2p lc 69 2p ld 6a 2p le 6b 2p lf 6c 2p lk 6d 2p lm",
    "6f 2r mf 6g 2t lc 6h 2t ld 6i 2t le 6j 2t lk 6k 2x lc 6l 2x ld 6m 2x le 6n 2x lk 6p 32 lf 6q 33",
    "lc 6r 33 ld 6s 33 le 6t 33 lf 6u 33 lk 6x 39 lc 6y 39 ld 6z 39 le 70 39 lk 71 3d ld 73 3d lk 74",
    "1t lg 75 2p lg 76 1t li 77 2p li 78 1t mg 79 2p mg 7a 1v ld 7b 2r ld 7c 1v le 7d 2r le 7e 1v lj",
    "7f 2r lj 7g 1v lo 7h 2r lo 7i 1w lo 7j 2s lo 7m 1x lg 7n 2t lg 7o 1x li 7p 2t li 7q 1x lj 7r 2t",
    "lj 7s 1x mg 7t 2t mg 7u 1x lo 7v 2t lo 7w 1z le 7x 2v le 7y 1z li 7z 2v li 80 1z lj 81 2v lj 82",
    "1z mf 83 2v mf 84 20 le 85 2w le 88 21 lf 89 2x lf 8a 21 lg 8b 2x lg 8c 21 li 8d 2x li 8e 21 mg",
    "8f 2x mg 8g 21 lj 8k 22 le 8l 2y le 8m 23 mf 8n 2z mf 8p 24 ld 8q 30 ld 8r 24 mf 8s 30 mf 8t 24",
    "lo 8u 30 lo 8z 26 ld 90 32 ld 91 26 mf 92 32 mf 93 26 lo 94 32 lo 98 27 lg 99 33 lg 9a 27 li 9b",
    "33 li 9c 27 ln 9d 33 ln 9g 2a ld 9h 36 ld 9i 2a mf 9j 36 mf 9k 2a lo 9l 36 lo 9m 2b ld 9n 37 ld",
    "9o 2b le 9p 37 le 9q 2b mf 9r 37 mf 9s 2b lo 9t 37 lo 9u 2c mf 9v 38 mf 9w 2c lo 9x 38 lo a0 2d",
    "lf a1 39 lf a2 2d lg a3 39 lg a4 2d li a5 39 li a6 2d lm a7 39 lm a8 2d ln a9 39 ln aa 2d mg ab",
    "39 mg ac 2f le ad 3b le ae 2h le af 3d le ag 2h lk ah 2i ld ai 3e ld aj 2i lj ak 3e lj al 2i lo",
    "am 3e lo bk 27 m3 bl 33 m3 bz 2d m3 c0 39 m3 ct 1t lo cu 2p lo cv 21 lo cw 2x lo cx 27 lo cy 33",
    "lo cz 2d lo d0 39 lo d1 64 lg d2 70 lg d3 64 ld d4 70 ld d5 64 lo d6 70 lo d7 64 lc d8 70 lc da",
    "5g lg db 6c lg dc fa lg dd fb lg de 5i lg df 6e lg di 1z lo dj 2v lo dk 23 lo dl 2z lo dm 27 mg",
    "dn 33 mg do dm lg dp dn lg dq c7 lo dr ia lo ds 2y lo dw 1z ld dx 2v ld e0 26 lc e1 32 lc e2 5h",
    "ld e3 6d ld e4 5i ld e5 6e ld e6 60 ld e7 6w ld e8 1t lr e9 2p lr ea 1t lt eb 2p lt ec 1x lr ed",
    "2t lr ee 1x lt ef 2t lt eg 21 lr eh 2x lr ei 21 lt ej 2x lt ek 27 lr el 33 lr em 27 lt en 33 lt",
    "eo 2a lr ep 36 lr eq 2a lt er 36 lt es 2d lr et 39 lr eu 2d lt ev 39 lt ew 2b me ex 37 me ey 2c",
    "me ez 38 me f2 20 lo f3 2w lo fa 1t lj fb 2p lj fc 1x mf fd 2t mf fe 5y lg ff 6u lg fg 5x lg fh",
    "6t lg fi 27 lj fj 33 lj fk fi lg fl fj lg fm 2h lg fn 3d lg p2 pd ld p4 ph ld p5 pj ld p6 pl ld",
    "p8 pr ld pa px ld pb q1 ld pc qy ld q2 pl lk q3 px lk q4 q9 ld q5 qd ld q6 qf ld q7 qh ld q8 qz",
    "ld qy qh lk qz qt lk r0 qn ld r1 qt ld r2 qx ld r7 r6 ld r8 r6 lk sg t1 lc sh t1 lk sj sz ld sn",
    "sm lk ss t6 ld st t4 lc su tf li t5 t4 li u1 u0 li uo tx lc up tx lk ur tv ld uv uu lk v0 u2 ld",
    "v1 u0 lc v2 ub li vq vo lr vr vp lr xt t2 li xu ty li y8 sw li y9 ts li ya sw lk yb ts lk ye t1",
    "li yf tx li yi yg lk yj yh lk yk t2 lk yl ty lk ym t3 lk yn tz lk yq t4 lg yr u0 lg ys t4 lk yt",
    "u0 lk yu ta lk yv u6 lk yy yw lk yz yx lk z0 tp lk z1 ul lk z2 tf lg z3 ub lg z4 tf lk z5 ub lk",
    "z6 tf ln z7 ub ln z8 tj lk z9 uf lk zc tn lk zd uj lk 17m 17r 18z 17n 17r 190 17o 18o 190 17p",
    "17r 191 17q 18q 190 1c0 1cl 190 1c2 1c1 190 1cj 1ci 190 1t5 1t4 1to 1td 1tc 1to 1tg 1tf 1to 1xn",
    "1xj 1xa 1xo 1xj 1xz 288 287 28m 28b 287 27y 28c 287 28n 2ac 2aa 2c7 2bu 2bq 2bi 2bv 2br 2bi 2bw",
    "2bq 2c7 2fc 2fa 2fq 2io 2in 2j9 2iv 2iu 2j9 2iw 2iu 2ja 2iy 2iu 2iq 2iz 2iy 2j9 2mi 2me 2m6 2mj",
    "2mf 2m6 2mk 2me 2mv 2qi 2qh 2q2 2qk 2qh 2q7 2ql 2qk 2q2 2qm 2qh 2qn 36u 36t 372 5c6 5c5 5dh 5c8",
    "5c7 5dh 5ca 5c9 5dh 5cc 5cb 5dh 5ce 5cd 5dh 5ci 5ch 5dh 5dn 5dm 5dh 5dp 5do 5dh 5ds 5dq 5dh 5dt",
    "5dr 5dh 5dv 5du 5dh 5xc 1t md 5xd 2p md 5xe 1u lj 5xf 2q lj 5xg 1u mb 5xh 2q mb 5xi 1u mp 5xj",
    "2q mp 5xk 5j ld 5xl 6f ld 5xm 1w lj 5xn 2s lj 5xo 1w mb 5xp 2s mb 5xq 1w mp 5xr 2s mp 5xs 1w mf",
    "5xt 2s mf 5xu 1w ml 5xv 2s ml 5xw 7m lc 5xx 7n lc 5xy 7m ld 5xz 7n ld 5y0 1x ml 5y1 2t ml 5y2",
    "1x mo 5y3 2t mo 5y4 fc li 5y5 fd li 5y6 1y lj 5y7 2u lj 5y8 1z lg 5y9 2v lg 5ya 20 lj 5yb 2w lj",
    "5yc 20 mb 5yd 2w mb 5ye 20 lk 5yf 2w lk 5yg 20 mf 5yh 2w mf 5yi 20 mm 5yj 2w mm 5yk 21 mo 5yl",
    "2x mo 5ym 5r ld 5yn 6n ld 5yo 23 ld 5yp 2z ld 5yq 23 mb 5yr 2z mb 5ys 23 mp 5yt 2z mp 5yu 24 mb",
    "5yv 30 mb 5yw 5yu lg 5yx 5yv lg 5yy 24 mp 5yz 30 mp 5z0 24 ml 5z1 30 ml 5z2 25 ld 5z3 31 ld 5z4",
    "25 lj 5z5 31 lj 5z6 25 mb 5z7 31 mb 5z8 26 lj 5z9 32 lj 5za 26 mb 5zb 32 mb 5zc 26 mp 5zd 32 mp",
    "5ze 26 ml 5zf 32 ml 5zg 5x ld 5zh 6t ld 5zi 5x lk 5zj 6t lk 5zk 98 lc 5zl 99 lc 5zm 98 ld 5zn",
    "99 ld 5zo 28 ld 5zp 34 ld 5zq 28 lj 5zr 34 lj 5zs 2a lj 5zt 36 lj 5zu 2a mb 5zv 36 mb 5zw 5zu",
    "lg 5zx 5zv lg 5zy 2a mp 5zz 36 mp 600 2b lj 601 37 lj 602 2b mb 603 37 mb 604 9m lj 605 9n lj",
    "606 9s lj 607 9t lj 608 602 lj 609 603 lj 60a 2c lj 60b 38 lj 60c 2c mb 60d 38 mb 60e 2c mp 60f",
    "38 mp 60g 2c ml 60h 38 ml 60i 2d mc 60j 39 mc 60k 2d mo 60l 39 mo 60m 2d ml 60n 39 ml 60o a0 ld",
    "60p a1 ld 60q a2 lk 60r a3 lk 60s 2e lf 60t 3a lf 60u 2e mb 60v 3a mb 60w 2f lc 60x 3b lc 60y",
    "2f ld 60z 3b ld 610 2f lk 611 3b lk 612 2f lj 613 3b lj 614 2f mb 615 3b mb 616 2g lj 617 3c lj",
    "618 2g lk 619 3c lk 61a 2h lj 61b 3d lj 61c 2i le 61d 3e le 61e 2i mb 61f 3e mb 61g 2i mp 61h",
    "3e mp 61i 2w mp 61j 38 lk 61k 3b lm 61l 3d lm 61n an lj 61s 1t mb 61t 2p mb 61u 1t ll 61v 2p ll",
    "61w 5e ld 61x 6a ld 61y 5e lc 61z 6a lc 620 5e ll 621 6a ll 622 5e lf 623 6a lf 624 61s le 625",
    "61t le 626 76 ld 627 77 ld 628 76 lc 629 77 lc 62a 76 ll 62b 77 ll 62c 76 lf 62d 77 lf 62e 61s",
    "li 62f 61t li 62g 1x mb 62h 2t mb 62i 1x ll 62j 2t ll 62k 1x lf 62l 2t lf 62m 5m ld 62n 6i ld",
    "62o 5m lc 62p 6i lc 62q 5m ll 62r 6i ll 62s 5m lf 62t 6i lf 62u 62g le 62v 62h le 62w 21 ll 62x",
    "2x ll 62y 21 mb 62z 2x mb 630 27 mb 631 33 mb 632 27 ll 633 33 ll 634 5w ld 635 6s ld 636 5w lc",
    "637 6s lc 638 5w ll 639 6s ll 63a 5w lf 63b 6s lf 63c 630 le 63d 631 le 63e bk ld 63f bl ld 63g",
    "bk lc 63h bl lc 63i bk ll 63j bl ll 63k bk lf 63l bl lf 63m bk mb 63n bl mb 63o 2d mb 63p 39 mb",
    "63q 2d ll 63r 39 ll 63s bz ld 63t c0 ld 63u bz lc 63v c0 lc 63w bz ll 63x c0 ll 63y bz lf 63z",
    "c0 lf 640 bz mb 641 c0 mb 642 2h lc 643 3d lc 644 2h mb 645 3d mb 646 2h ll 647 3d ll 648 2h lf",
    "649 3d lf 64g q9 lv 64h q9 lw 64i 64g lc 64j 64h lc 64k 64g ld 64l 64h ld 64m 64g n6 64n 64h n6",
    "64o pd lv 64p pd lw 64q 64o lc 64r 64p lc 64s 64o ld 64t 64p ld 64u 64o n6 64v 64p n6 64w qd lv",
    "64x qd lw 64y 64w lc 64z 64x lc 650 64w ld 651 64x ld 654 ph lv 655 ph lw 656 654 lc 657 655 lc",
    "658 654 ld 659 655 ld 65c qf lv 65d qf lw 65e 65c lc 65f 65d lc 65g 65c ld 65h 65d ld 65i 65c",
    "n6 65j 65d n6 65k pj lv 65l pj lw 65m 65k lc 65n 65l lc 65o 65k ld 65p 65l ld 65q 65k n6 65r",
    "65l n6 65s qh lv 65t qh lw 65u 65s lc 65v 65t lc 65w 65s ld 65x 65t ld 65y 65s n6 65z 65t n6",
    "660 pl lv 661 pl lw 662 660 lc 663 661 lc 664 660 ld 665 661 ld 666 660 n6 667 661 n6 668 qn lv",
    "669 qn lw 66a 668 lc 66b 669 lc 66c 668 ld 66d 669 ld 66g pr lv 66h pr lw 66i 66g lc 66j 66h lc",
    "66k 66g ld 66l 66h ld 66o qt lv 66p qt lw 66q 66o lc 66r 66p lc 66s 66o ld 66t 66p ld 66u 66o",
    "n6 66v 66p n6 66x px lw 66z 66x lc 671 66x ld 673 66x n6 674 qx lv 675 qx lw 676 674 lc 677 675",
    "lc 678 674 ld 679 675 ld 67a 674 n6 67b 675 n6 67c q1 lv 67d q1 lw 67e 67c lc 67f 67d lc 67g",
    "67c ld 67h 67d ld 67i 67c n6 67j 67d n6 67k q9 lc 67m qd lc 67o qf lc 67q qh lc 67s qn lc 67u",
    "qt lc 67w qx lc 680 64g n9 681 64h n9 682 64i n9 683 64j n9 684 64k n9 685 64l n9 686 64m n9",
    "687 64n n9 688 64o n9 689 64p n9 68a 64q n9 68b 64r n9 68c 64s n9 68d 64t n9 68e 64u n9 68f 64v",
    "n9 68g 65c n9 68h 65d n9 68i 65e n9 68j 65f n9 68k 65g n9 68l 65h n9 68m 65i n9 68n 65j n9 68o",
    "65k n9 68p 65l n9 68q 65m n9 68r 65n n9 68s 65o n9 68t 65p n9 68u 65q n9 68v 65r n9 68w 674 n9",
    "68x 675 n9 68y 676 n9 68z 677 n9 690 678 n9 691 679 n9 692 67a n9 693 67b n9 694 67c n9 695 67d",
    "n9 696 67e n9 697 67f n9 698 67g n9 699 67h n9 69a 67i n9 69b 67j n9 69c q9 li 69d q9 lg 69e",
    "67k n9 69f q9 n9 69g q4 n9 69i q9 n6 69j 69i n9 69k pd li 69l pd lg 69m pd lc 69o pd n9 69u 67o",
    "n9 69v qf n9 69w q6 n9 69y qf n6 69z 69y n9 6a0 ph lc 6a2 pj lc 6a4 pj n9 6a8 qh li 6a9 qh lg",
    "6aa qy lc 6ae qh n6 6af qy n6 6ag pl li 6ah pl lg 6ai pl lc 6ao qt li 6ap qt lg 6aq qz lc 6as",
    "qp lv 6at qp lw 6au qt n6 6av qz n6 6aw px li 6ax px lg 6ay px lc 6b0 pt lw 6b6 67w n9 6b7 qx",
    "n9 6b8 r2 n9 6ba qx n6 6bb 6ba n9 6bc pr lc 6be q1 lc 6bg q1 n9 9jg 9jf 9ll 9ji 9jh 9ll 9jk 9jj",
    "9ll 9jm 9jl 9ll 9jo 9jn 9ll 9jq 9jp 9ll 9js 9jr 9ll 9ju 9jt 9ll 9jw 9jv 9ll 9jy 9jx 9ll 9k0 9jz",
    "9ll 9k2 9k1 9ll 9k5 9k4 9ll 9k7 9k6 9ll 9k9 9k8 9ll 9kg 9kf 9ll 9kh 9kf 9lm 9kj 9ki 9ll 9kk 9ki",
    "9lm 9km 9kl 9ll 9kn 9kl 9lm 9kp 9ko 9ll 9kq 9ko 9lm 9ks 9kr 9ll 9kt 9kr 9lm 9lg 9ja 9ll 9lq 9lp",
    "9ll 9m4 9m3 9ll 9m6 9m5 9ll 9m8 9m7 9ll 9ma 9m9 9ll 9mc 9mb 9ll 9me 9md 9ll 9mg 9mf 9ll 9mi 9mh",
    "9ll 9mk 9mj 9ll 9mm 9ml 9ll 9mo 9mn 9ll 9mq 9mp 9ll 9mt 9ms 9ll 9mv 9mu 9ll 9mx 9mw 9ll 9n4 9n3",
    "9ll 9n5 9n3 9lm 9n7 9n6 9ll 9n8 9n6 9lm 9na 9n9 9ll 9nb 9n9 9lm 9nd 9nc 9ll 9ne 9nc 9lm 9ng 9nf",
    "9ll 9nh 9nf 9lm 9o4 9ly 9ll 9o7 9nz 9ll 9o8 9o0 9ll 9o9 9o1 9ll 9oa 9o2 9ll 9oe 9od 9ll 1hui",
    "1huh 1hve 1huk 1huj 1hve 1huz 1hut 1hve 1hym 1hyp 1hyf 1hyn 1hyq 1hyf 1idn 1idj 1ida 1ido 1idj",
    "1idz 1inv 1int 1inu 1inw 1int 1ink 1iny 1int 1inx 1iuy 1iuw 1iun 1iuz 1iux 1iun 1jjs 1jjp 1jjk"]

/-- Stretches of marks with their class: first mark, count and class. -/
def marks : List (Nat × Nat × Nat) := rows
  ["lc l 6e lx 1 6g ly 4 64 m2 1 6g m3 1 60 m4 5 64 m9 2 5m mb 4 64 mf 2 5m mh b 64 ms 5 1 mx 4 64",
    "n1 8 6e n9 1 6o na 1 6e nb 3 64 ne 3 6e nh 2 64 nk 3 6e nn 4 64 nr 1 6e ns 1 6g nt 2 64 nv 1 6e",
    "nw 1 6h nx 2 6i nz 1 6h o0 2 6i o2 1 6h o3 d 6e w3 5 6e 13l 1 64 13m 4 6e 13q 1 64 13r 3 6e 13u",
    "1 66 13v 1 64 13w 6 6e 142 6 64 148 2 6e 14a 1 64 14b 2 6e 14d 1 66 14e 1 6c 14f 1 6e 14g 1 a",
    "14h 1 b 14i 1 c 14j 1 d 14k 1 e 14l 1 f 14m 1 g 14n 1 h 14o 1 i 14p 2 j 14r 1 k 14s 1 l 14t 1 m",
    "14v 1 n 14x 1 o 14y 1 p 150 1 6e 151 1 64 153 1 i 174 8 6e 17c 1 u 17d 1 v 17e 1 w 18r 1 r 18s",
    "1 s 18t 1 t 18u 1 u 18v 1 v 18w 1 w 18x 1 x 18y 1 y 18z 2 6e 191 2 64 193 5 6e 198 1 64 199 2",
    "6e 19b 1 64 19s 1 z 1cm 7 6e 1cv 4 6e 1cz 1 64 1d0 1 6e 1d3 2 6e 1d6 1 64 1d7 2 6e 1d9 1 64 1e9",
    "1 10 1f4 1 6e 1f5 1 64 1f6 2 6e 1f8 1 64 1f9 2 6e 1fb 3 64 1fe 1 6e 1ff 2 64 1fh 1 6e 1fi 1 64",
    "1fj 3 6e 1fm 1 64 1fn 1 6e 1fo 1 64 1fp 1 6e 1fq 1 64 1fr 1 6e 1fs 1 64 1ft 2 6e 1kb 7 6e 1ki 1",
    "64 1kj 1 6e 1kt 1 64 1li 4 6e 1ln 9 6e 1lx 3 6e 1m1 5 6e 1nd 3 64 1p4 1 6e 1p5 3 64 1p8 4 6e",
    "1qi 5 6e 1qn 5 64 1qs e 6e 1r7 1 64 1r8 2 6e 1ra 1 64 1rb 2 6e 1rd 1 64 1re 3 6e 1rh 3 64 1rk 1",
    "r 1rl 1 s 1rm 1 t 1rn 3 6e 1rq 1 64 1rr 2 6e 1rt 2 64 1rv 5 6e 1to 1 7 1u5 1 9 1u9 1 6e 1ua 1",
    "64 1ub 2 6e 1x8 1 7 1xp 1 9 1z2 1 6e 20s 1 7 219 1 9 24c 1 7 24t 1 9 27w 1 7 28d 1 9 2bx 1 9",
    "2f0 1 7 2fh 1 9 2fp 1 2c 2fq 1 2j 2ik 1 7 2j1 1 9 2m3 2 9 2ml 1 9 2q2 1 9 2t4 2 2v 2t6 1 9 2tk",
    "4 2z 2wo 2 3a 2wq 1 9 2x4 4 3e 2zc 2 64 305 1 64 307 1 64 309 1 60 31t 1 3l 31u 1 3m 31w 1 3o",
    "322 4 3m 328 1 3m 32a 2 6e 32c 1 9 32e 2 6e 346 1 64 37b 1 7 37d 2 9 39p 1 64 3tp 3 6e 4k4 2 9",
    "4l0 1 9 4pe 1 9 4pp 1 6e 4vd 1 6c 4zd 1 66 4ze 1 6e 4zf 1 64 55j 1 6e 55k 1 64 57k 1 9 585 8 6e",
    "58f 1 64 59s 5 6e 59x 6 64 5a3 2 6e 5a5 1 64 5a7 2 64 5a9 2 6e 5ab 2 64 5ad 5 6e 5ai 1 64 5aj 4",
    "6e 5dg 1 7 5dw 1 9 5ez 1 6e 5f0 1 64 5f1 7 6e 5gq 2 9 5ie 1 7 5iq 2 9 5kn 1 7 5ow 3 6e 5p0 1 1",
    "5p1 5 64 5p6 2 6e 5p8 4 64 5pc 1 6e 5pe 7 1 5pp 1 64 5pw 1 6e 5q0 2 6e 5vk 2 6e 5vm 1 64 5vn 7",
    "6e 5vu 1 64 5vv 2 6e 5vx 1 6i 5vy 1 5y 5vz 1 64 5w0 1 5m 5w1 11 6e 5x2 1 6g 5x3 2 6c 5x5 1 64",
    "5x6 1 62 5x7 1 6e 5x8 1 6h 5x9 1 64 5xa 1 6e 5xb 1 64 6hc 2 6e 6he 2 1 6hg 4 6e 6hk 3 1 6hn 2",
    "6e 6ht 1 6e 6hx 2 1 6hz 1 6e 6i0 1 64 6i1 1 6e 6i2 2 1 6i4 4 64 6i8 1 6e 8vj 3 6e 8zj 1 9 928 w",
    "6e 9ii 1 62 9ij 1 6c 9ik 1 6g 9il 1 66 9im 2 68 9ll 2 8 wvj 1 6e wvo a 6e wwu 2 6e wz4 2 6e x6u",
    "1 9 x7w 1 9 xc4 1 9 xcw i 6e xez 3 64 xg3 1 9 xir 1 7 xj4 1 9 xps 1 6e xpu 2 6e xpw 1 64 xpz 2",
    "6e xq6 2 6e xq9 1 6e xrq 1 9 xyl 1 9 1dlq 1 q 1e74 7 6e 1e7b 7 64 1e7i 2 6e 1eyl 1 64 1f4w 1 64",
    "1f92 5 6e 1gjx 1 64 1gjz 1 6e 1gl4 1 6e 1gl5 1 1 1gl6 1 64 1glb 1 9 1gpx 1 6e 1gpy 1 64 1h5w 4",
    "6e 1hgr 2 6e 1hl2 2 64 1hl4 3 6e 1hl7 1 64 1hl8 1 6e 1hl9 4 64 1hmq 1 6e 1hmr 1 64 1hms 1 6e",
    "1hmt 1 64 1hs6 1 9 1htc 1 9 1htr 1 9 1hvd 1 9 1hve 1 7 1hxc 3 6e 1hyr 2 9 1i0j 1 7 1i2o 1 9",
    "1i2y 1 7 1i5x 1 9 1i5y 1 7 1iax 1 7 1iay 1 9 1id7 2 7 1idp 1 9 1iee 7 6e 1ieo 5 6e 1iki 1 9",
    "1ikm 1 7 1ila 1 6e 1io2 1 9 1io3 1 7 1iv3 1 9 1iv4 1 7 1iyn 1 9 1j1y 1 9 1j1z 1 7 1j57 1 9 1jcp",
    "1 9 1jcq 1 7 1jjx 2 9 1jk3 1 7 1jog 1 9 1jqs 1 9 1jrb 1 9 1jtl 1 9 1k5b 1 9 1kci 1 7 1kck 2 9",
    "1kev 1 9 1zow 5 1 1zqo 7 6e 20og 2 6 2ftq 1 1 2jxh 2 60 2jxj 3 1 2jxp 1 6a 2jxq 5 60 2jy3 8 64",
    "2jyd 5 6e 2jyi 2 64 2jze 4 6e 2k3m 3 6e 2mtc 7 6e 2mtk h 6e 2mu3 7 6e 2mub 2 6e 2mue 5 6e 2n1s",
    "7 6e 2nce 1 6e 2ne4 4 6e 2ok0 7 64 2on8 6 6e 2one 1 7"]

/-- The class of a mark, which decides its place among other marks; zero for all other characters. -/
def markClass (n : Nat) : Nat :=
  match marks.find? fun (first, count, _) => first ≤ n && n < first + count with
  | some (_, _, k) => k
  | none => 0

/-! ### Syllables -/

/-- Where the composed syllables begin, and the characters of their three parts. -/
def syllableBase : Nat := 0xAC00
def leadBase : Nat := 0x1100
def vowelBase : Nat := 0x1161
def tailBase : Nat := 0x11A7

def leadCount : Nat := 19
def vowelCount : Nat := 21
def tailCount : Nat := 28

/-- The parts of a composed syllable. -/
def syllableParts? (n : Nat) : Option (List Nat) :=
  let i := n - syllableBase
  if n < syllableBase || i ≥ leadCount * vowelCount * tailCount then none
  else
    let head := [leadBase + i / (vowelCount * tailCount), vowelBase + i / tailCount % vowelCount]
    some (if i % tailCount = 0 then head else head ++ [tailBase + i % tailCount])

/-- The syllable of two parts, the first of which may be a syllable without a tail. -/
def syllable? (a b : Nat) : Option Nat :=
  if leadBase ≤ a && a < leadBase + leadCount && vowelBase ≤ b && b < vowelBase + vowelCount then
    some (syllableBase + ((a - leadBase) * vowelCount + (b - vowelBase)) * tailCount)
  else if syllableBase ≤ a && a < syllableBase + leadCount * vowelCount * tailCount
      && (a - syllableBase) % tailCount == 0 && tailBase < b && b < tailBase + tailCount then
    some (a + (b - tailBase))
  else none

/-! ### Taking apart and composing -/

/-- The compatible characters that stand for a character. -/
def compatible (n : Nat) : List Nat :=
  match long.find? n with
  | some cs => cs.map Char.toNat
  | none => [(short.find? n).getD n]

/-- The parts of a composed character. No character is composed in more steps than there are parts in
the longest one. -/
def parts : Nat → Nat → List Nat
  | 0, n => [n]
  | fuel + 1, n =>
    match syllableParts? n, composites.find? (·.1 == n) with
    | some ns, _ => ns
    | none, some (_, a, b) => parts fuel a ++ parts fuel b
    | none, none => [n]

def longestParts : Nat := 4

/-- Puts a character before others; a mark moves behind marks of lower classes. -/
def insertMark (n : Nat) : List Nat → List Nat
  | [] => [n]
  | m :: ms =>
    if markClass m ≠ 0 && markClass m < markClass n then m :: insertMark n ms else n :: m :: ms

/-- The character that two are composed to. -/
def composite? (a b : Nat) : Option Nat :=
  syllable? a b <|> (composites.find? fun (_, x, y) => x == a && y == b).map (·.1)

/-- Composes what follows with `base`. The marks that do not compose with it, `kept` with the last one
first, keep marks of classes that are not higher away from it. -/
def composeFrom (base : Nat) (kept : List Nat) : List Nat → List Nat
  | [] => base :: kept.reverse
  | n :: rest =>
    let blocked := (kept.head?.map fun m => decide (markClass n ≤ markClass m)).getD false
    match if blocked then none else composite? base n with
    | some composed => composeFrom composed kept rest
    | none =>
      if markClass n = 0 then base :: kept.reverse ++ composeFrom n [] rest
      else composeFrom base (n :: kept) rest

def compose : List Nat → List Nat
  | [] => []
  | n :: rest => composeFrom n [] rest

end NameForm

/-- The form that all ways to write a name share. -/
def nameForm (s : String) : String :=
  if s.toList.all fun c => c.toNat < 0x80 then s
  else
    let apart := (s.toList.flatMap fun c => NameForm.compatible c.toNat).flatMap
      (NameForm.parts NameForm.longestParts)
    String.ofList ((NameForm.compose (apart.foldr NameForm.insertMark [])).map Char.ofNat)

end Stencil.Text
