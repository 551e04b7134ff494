namespace SpinLidar

namespace Calibration

def nominalHeader : String :=
  "laser_id,rotational_correction_deg,vertical_angle_deg,vertical_offset_m"

def vlp16Text : String :=
  nominalHeader ++ "\n" ++
  "0,0.0,-15,0.0112\n1,0.0,1,-0.0007\n2,0.0,-13,0.0097\n" ++
  "3,0.0,3,-0.0022\n4,0.0,-11,0.0081\n5,0.0,5,-0.0037\n6,0.0,-9,0.0066\n" ++
  "7,0.0,7,-0.0051\n8,0.0,-7,0.0051\n9,0.0,9,-0.0066\n10,0.0,-5,0.0037\n" ++
  "11,0.0,11,-0.0081\n12,0.0,-3,0.0022\n13,0.0,13,-0.0097\n14,0.0,-1,0.0007\n" ++
  "15,0.0,15,-0.0112\n"

def vlp16HiResText : String :=
  nominalHeader ++ "\n" ++
  "0,0.0,-10.00,0.0074\n1,0.0,0.67,-0.0009\n2,0.0,-8.67,0.0065\n" ++
  "3,0.0,2.00,-0.0018\n4,0.0,-7.33,0.0055\n5,0.0,3.33,-0.0027\n6,0.0,-6.00,0.0046\n" ++
  "7,0.0,4.67,-0.0037\n8,0.0,-4.67,0.0037\n9,0.0,6.00,-0.0046\n10,0.0,-3.33,0.0027\n" ++
  "11,0.0,7.33,-0.0055\n12,0.0,-2.00,0.0018\n13,0.0,8.67,-0.0065\n14,0.0,-0.67,0.0009\n" ++
  "15,0.0,10.00,-0.0074\n"

def hdl32eText : String :=
  nominalHeader ++ "\n" ++
  "0,0.0,-30.67,0.0\n1,0.0,-9.33,0.0\n2,0.0,-29.33,0.0\n" ++
  "3,0.0,-8.00,0.0\n4,0.0,-28.00,0.0\n5,0.0,-6.67,0.0\n6,0.0,-26.67,0.0\n" ++
  "7,0.0,-5.33,0.0\n8,0.0,-25.33,0.0\n9,0.0,-4.00,0.0\n10,0.0,-24.00,0.0\n" ++
  "11,0.0,-2.67,0.0\n12,0.0,-22.67,0.0\n13,0.0,-1.33,0.0\n14,0.0,-21.33,0.0\n" ++
  "15,0.0,0.00,0.0\n16,0.0,-20.00,0.0\n17,0.0,1.33,0.0\n18,0.0,-18.67,0.0\n" ++
  "19,0.0,2.67,0.0\n20,0.0,-17.33,0.0\n21,0.0,4.00,0.0\n22,0.0,-16.00,0.0\n" ++
  "23,0.0,5.33,0.0\n24,0.0,-14.67,0.0\n25,0.0,6.67,0.0\n26,0.0,-13.33,0.0\n" ++
  "27,0.0,8.00,0.0\n28,0.0,-12.00,0.0\n29,0.0,9.33,0.0\n30,0.0,-10.67,0.0\n" ++
  "31,0.0,10.67,0.0\n"

def hdl64eText : String :=
  nominalHeader ++ "\n" ++
  "0,0.0,2.0000,0.0\n1,0.0,1.6667,0.0\n2,0.0,1.3333,0.0\n" ++
  "3,0.0,1.0000,0.0\n4,0.0,0.6667,0.0\n5,0.0,0.3333,0.0\n6,0.0,0.0000,0.0\n" ++
  "7,0.0,-0.3333,0.0\n8,0.0,-0.6667,0.0\n9,0.0,-1.0000,0.0\n10,0.0,-1.3333,0.0\n" ++
  "11,0.0,-1.6667,0.0\n12,0.0,-2.0000,0.0\n13,0.0,-2.3333,0.0\n14,0.0,-2.6667,0.0\n" ++
  "15,0.0,-3.0000,0.0\n16,0.0,-3.3333,0.0\n17,0.0,-3.6667,0.0\n18,0.0,-4.0000,0.0\n" ++
  "19,0.0,-4.3333,0.0\n20,0.0,-4.6667,0.0\n21,0.0,-5.0000,0.0\n22,0.0,-5.3333,0.0\n" ++
  "23,0.0,-5.6667,0.0\n24,0.0,-6.0000,0.0\n25,0.0,-6.3333,0.0\n26,0.0,-6.6667,0.0\n" ++
  "27,0.0,-7.0000,0.0\n28,0.0,-7.3333,0.0\n29,0.0,-7.6667,0.0\n30,0.0,-8.0000,0.0\n" ++
  "31,0.0,-8.3333,0.0\n32,0.0,-8.8300,0.0\n33,0.0,-9.3300,0.0\n34,0.0,-9.8300,0.0\n" ++
  "35,0.0,-10.3300,0.0\n36,0.0,-10.8300,0.0\n37,0.0,-11.3300,0.0\n38,0.0,-11.8300,0.0\n" ++
  "39,0.0,-12.3300,0.0\n40,0.0,-12.8300,0.0\n41,0.0,-13.3300,0.0\n42,0.0,-13.8300,0.0\n" ++
  "43,0.0,-14.3300,0.0\n44,0.0,-14.8300,0.0\n45,0.0,-15.3300,0.0\n46,0.0,-15.8300,0.0\n" ++
  "47,0.0,-16.3300,0.0\n48,0.0,-16.8300,0.0\n49,0.0,-17.3300,0.0\n50,0.0,-17.8300,0.0\n" ++
  "51,0.0,-18.3300,0.0\n52,0.0,-18.8300,0.0\n53,0.0,-19.3300,0.0\n54,0.0,-19.8300,0.0\n" ++
  "55,0.0,-20.3300,0.0\n56,0.0,-20.8300,0.0\n57,0.0,-21.3300,0.0\n58,0.0,-21.8300,0.0\n" ++
  "59,0.0,-22.3300,0.0\n60,0.0,-22.8300,0.0\n61,0.0,-23.3300,0.0\n62,0.0,-23.8300,0.0\n" ++
  "63,0.0,-24.3300,0.0\n"

end Calibration

end SpinLidar
